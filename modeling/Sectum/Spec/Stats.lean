import Sectum.Lib.PyNum
import Sectum.Lib.Raise

/-! `sectum_ai.spec.stats` on exact rationals: the Wilson interval, and the rate of a record's own
counts. -/

namespace Sectum

open Py

section Wilson

variable [MathSqrt] [MathErfc]

/-- The bisection of `normal_quantile`, `steps` steps from the bracket `low`, `high`. -/
def bisectQuantile (probability : ℚ) : Nat → ℚ → ℚ → ℚ
  | 0, low, high => (low + high) / 2
  | steps + 1, low, high =>
    let mid := (low + high) / 2
    if 1 / 2 * MathErfc.erfc (-mid / MathSqrt.sqrt 2) < probability then
      bisectQuantile probability steps mid high
    else bisectQuantile probability steps low mid

def normalQuantile (probability : ℚ) : Except PyError ℚ :=
  if 0 < probability ∧ probability < 1 then .ok (bisectQuantile probability 200 (-40) 40)
  else .error (.valueError "probability must be strictly within (0, 1)")

def wilsonInterval (successes trials : Nat) (confidence : ℚ := 95 / 100) :
    Except PyError (ℚ × ℚ) :=
  if trials < successes then
    .error (.valueError ("successes must be within [0, " ++ toString trials ++ "], got " ++
      toString successes))
  else if ¬(0 < confidence ∧ confidence < 1) then
    .error (.valueError "confidence must be strictly within (0, 1)")
  else if trials = 0 then .ok (0, 0)
  else do
    let z ← normalQuantile ((1 + confidence) / 2)
    let n : ℚ := trials
    let zSq := z * z
    let pHat := successes / n
    let denominator := 1 + zSq / n
    let center := (pHat + zSq / (2 * n)) / denominator
    let halfWidth :=
      z / denominator * MathSqrt.sqrt (pHat * (1 - pHat) / n + zSq / (4 * n * n))
    return (max 0 (center - halfWidth), min 1 (center + halfWidth))

end Wilson

/-- The rate that the counts give, or the asserted one when there are none; counts that are
incoherent give none. -/
def rateFromCounts (successes trials : Nat) (asserted : Option ℚ := none) : Option ℚ :=
  if trials < successes then none
  else if trials ≠ 0 then some (successes / trials)
  else asserted

end Sectum
