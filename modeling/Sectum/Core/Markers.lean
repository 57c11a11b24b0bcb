import Sectum.Lib.Draws
import Sectum.Spec.Hashing
import Sectum.Spec.Models

/-! `sectum_ai.substrate.rng` and `sectum_ai.substrate.markers`: the canary markers of a tenant. -/

namespace Sectum

open Py

section Rng

variable [Hashlib]

/-- `derive_seed`: the first eight bytes of a digest, as a number. -/
def deriveSeed (base : Int) (parts : List String) : Nat :=
  ((Hashlib.sha256 (utf8 (join ":" (toString base :: parts)))).take 8).foldl
    (fun n byte => n * 256 + byte.toNat) 0

def deriveRng {ρ : Type} [RandomSource ρ] (base : Int) (parts : List String) : ρ :=
  RandomSource.seeded (deriveSeed base parts)

end Rng

section Base32

def bits (byte : UInt8) : List Nat := (List.range 8).map fun k => byte.toNat / 2 ^ (7 - k) % 2

def base32Alphabet : List Char := "ABCDEFGHIJKLMNOPQRSTUVWXYZ234567".toList

/-- The digit of five bits, of which the last may be missing. -/
def base32Digit (group : List Nat) : Char :=
  base32Alphabet.getD (Nat.ofDigits 2 (group ++ List.replicate (5 - group.length) 0).reverse) 'A'

/-- `b32encode(data).decode("ascii").rstrip("=")`. -/
def b32encode (data : Bytes) : String :=
  String.ofList (((data.flatMap bits).toChunks 5).map base32Digit)

example : b32encode [0x66, 0x6f, 0x6f] = "MZXW6" := by decide +kernel

end Base32

section Plaintexts

/-- The plaintext of a marker, which is not empty. -/
abbrev Plaintext := { text : String // text ≠ "" }

def branded (brand rest : String) (h : brand ≠ "" := by decide) : Plaintext :=
  ⟨brand ++ rest, fun heq => h (String.append_eq_empty_iff.mp heq).1⟩

def asciiUppercase : List Char := "ABCDEFGHIJKLMNOPQRSTUVWXYZ".toList

def asciiLetters : List Char := "abcdefghijklmnopqrstuvwxyz".toList ++ asciiUppercase

def asciiDigits : List Char := "0123456789".toList

def secretAlnumAlphabet : List Char := asciiLetters ++ asciiDigits

def secretUpperAlphabet : List Char := asciiUppercase ++ asciiDigits

def markerCodenames : List String :=
  ["Quasar", "Lodestar", "Halcyon", "Meridian", "Onyx", "Zephyr", "Garnet", "Pinnacle"]

variable {ρ : Type} [RandomSource ρ]

def hardPlaintext : StateM ρ Plaintext := do
  let bytes ← RandomSource.randbytes 16
  return branded "SECTUM-CANARY-" (b32encode bytes)

def secretOpenaiPlaintext : StateM ρ Plaintext := do
  let chars ← choices secretAlnumAlphabet (by decide) 48
  return branded "sk-" (String.ofList chars)

def secretAwsPlaintext : StateM ρ Plaintext := do
  let chars ← choices secretUpperAlphabet (by decide) 16
  return branded "AKIA" (String.ofList chars)

def secretSsnPlaintext : StateM ρ Plaintext := do
  let area ← RandomSource.randint 0 99
  let group ← RandomSource.randint 0 99
  let serial ← RandomSource.randint 0 9999
  return branded "9" (padded 2 area ++ "-" ++ padded 2 group ++ "-" ++ padded 4 serial)

/-- The shapes of a secret, which are cycled across tenants. -/
def secretShapes : List (StateM ρ Plaintext) :=
  [secretOpenaiPlaintext, secretAwsPlaintext, secretSsnPlaintext]

def entityPlaintext (sequence : Nat) : StateM ρ Plaintext := do
  let codename ← choice markerCodenames (by decide)
  let bytes ← RandomSource.randbytes 3
  return branded "Project " (codename ++ b32encode bytes ++ "-" ++ padded 5 sequence)

end Plaintexts

section Markers

def markersPerType : Nat := 2

def markerTypes : List MarkerType := [.hardCanary, .entityCanary, .secretCanary]

def markersPerTenant : Nat := markersPerType * markerTypes.length

/-- The types of a tenant's markers, each with its index among those of one type. -/
def markerKinds : List (MarkerType × Nat) :=
  markerTypes.flatMap fun markerType =>
    (List.range markersPerType).map fun localIndex => (markerType, localIndex)

def markerIdOf (sequence : Nat) : String := "mkr-" ++ padded 5 sequence

variable {ρ : Type} [RandomSource ρ]

def markerPlaintext (tenantOrdinal sequence : Nat) (kind : MarkerType × Nat) : StateM ρ Plaintext :=
  match kind.1 with
  | .hardCanary => hardPlaintext
  | .secretCanary =>
    let shapes : List (StateM ρ Plaintext) := secretShapes
    shapes.getD ((tenantOrdinal + kind.2) % shapes.length) secretOpenaiPlaintext
  | .entityCanary => entityPlaintext sequence

/-- A marker, `position` of which are before it in its tenant. -/
def generateMarker (tenantId : UUID) (startSequence : Nat) (users : List SyntheticUserSpec)
    (kind : MarkerType × Nat) (position : Nat) : StateM ρ Marker := do
  let sequence := startSequence + position
  let plaintext ← markerPlaintext (startSequence / markersPerTenant) sequence kind
  return {
    markerId := markerIdOf sequence
    markerType := kind.1
    ownerTenantId := tenantId
    ownerUserId := users[position % users.length]?.map SyntheticUserSpec.userId
    plaintext := plaintext.1
    plaintext_ne := plaintext.2 }

def generateMarkers (tenantId : UUID) (startSequence : Nat) (users : List SyntheticUserSpec)
    (rng : ρ) : List Marker :=
  (markerKinds.zipIdx.mapM fun entry =>
    generateMarker tenantId startSequence users entry.1 entry.2).run' rng

end Markers

end Sectum
