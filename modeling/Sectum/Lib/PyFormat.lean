import Mathlib.Data.List.DropRight
import Mathlib.Data.Nat.Log
import Sectum.Lib.PyNum
import Sectum.Lib.PyTime

/-! `format(x, "g")` on exact rationals. -/

namespace Py

/-- `digits / 10 ^ places` in decimals, without trailing zeros. -/
def decimals (digits places : Nat) : String :=
  let fraction := (padded places (digits % 10 ^ places : Nat)).toList.rdropWhile (· = '0')
  toString (digits / 10 ^ places) ++
    if fraction = [] then "" else "." ++ String.ofList fraction

/-- The power of ten at the first significant digit of a positive number. -/
def leadingExponent (size : ℚ) : Int :=
  if 1 ≤ size then Nat.log 10 size.floor.toNat else -(Nat.clog 10 (1 / size).ceil.toNat : Int)

/-- `f"{x:g}"`: six significant digits. -/
def formatG (x : ℚ) : String :=
  let sign := if x < 0 then "-" else ""
  let size := |x|
  if size = 0 then "0"
  else
    let leading := leadingExponent size
    let rounded := (roundHalfEven (size * (10 : ℚ) ^ (5 - leading))).toNat
    let digits := if rounded = 10 ^ 6 then 10 ^ 5 else rounded
    let exponent := if rounded = 10 ^ 6 then leading + 1 else leading
    if 6 ≤ exponent ∨ exponent < -4 then
      sign ++ decimals digits 5 ++ "e" ++ (if exponent < 0 then "-" else "+") ++
        padded 2 exponent.natAbs
    else sign ++ decimals digits (5 - exponent).toNat

/-- `f"{x:.{digits}g}"`, of a number that is not negative. -/
def formatSignificant (digits : Nat) (x : ℚ) : String :=
  if x = 0 then "0"
  else
    let leading := leadingExponent x
    let rounded := (roundHalfEven (x * (10 : ℚ) ^ (digits - 1 - leading))).toNat
    let shown := if rounded = 10 ^ digits then 10 ^ (digits - 1) else rounded
    let exponent := if rounded = 10 ^ digits then leading + 1 else leading
    if digits ≤ exponent ∨ exponent < -4 then
      decimals shown (digits - 1) ++ "e" ++ (if exponent < 0 then "-" else "+") ++
        padded 2 exponent.natAbs
    else decimals shown (digits - 1 - exponent).toNat

example : formatG 0 = "0" ∧ formatG (1 / 8) = "0.125" ∧ formatG (-24) = "-24" ∧
    formatG 1234567 = "1.23457e+06" ∧ formatG (9999995 / 10) = "1e+06" ∧
      formatG (1 / 100000) = "1e-05" ∧ formatSignificant 2 (1 / 1200) = "0.00083" := by
  decide +kernel

end Py
