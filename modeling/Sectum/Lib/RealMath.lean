import Mathlib.Analysis.SpecialFunctions.Gamma.Basic
import Mathlib.Analysis.SpecialFunctions.Log.Basic

/-! `math.lgamma`, `math.exp` and `math.log` on rationals, and how near they come to the functions of the
reals. -/

namespace Py

/-- `math.lgamma`, `math.exp` and `math.log`, about which nothing is assumed. -/
class MathExp where
  lgamma : ℚ → ℚ
  exp : ℚ → ℚ
  log : ℚ → ℚ

/-- A rational that stands for a real; a float is much nearer. -/
def Near (q : ℚ) (r : ℝ) : Prop := |(q : ℝ) - r| ≤ (1 + |r|) / (2 ^ 40 : ℚ)

/-- The functions are near those of the reals, where floats hold their values. -/
structure MathExp.Accurate [MathExp] : Prop where
  lgamma : ∀ q : ℚ, 0 < q → q ≤ 2 ^ 1000 → Near (MathExp.lgamma q) (Real.log (Real.Gamma q))
  exp : ∀ q : ℚ, q ≤ 700 → Near (MathExp.exp q) (Real.exp q)
  log : ∀ q : ℚ, 0 < q → Near (MathExp.log q) (Real.log q)

/-- The multiple of `2 ^ -40` at or below a real. -/
noncomputable def roundedDown (r : ℝ) : ℚ := ⌊r * (2 ^ 40 : ℚ)⌋ / 2 ^ 40

theorem near_roundedDown (r : ℝ) : Near (roundedDown r) r := by
  have hcast : ((roundedDown r : ℚ) : ℝ) = ⌊r * 2 ^ 40⌋ / 2 ^ 40 := by
    unfold roundedDown
    push_cast
    rfl
  have hfloor := Int.floor_le (r * 2 ^ 40)
  have hceil := Int.lt_floor_add_one (r * 2 ^ 40)
  have hdiff : ((roundedDown r : ℚ) : ℝ) - r = (⌊r * 2 ^ 40⌋ - r * 2 ^ 40) / 2 ^ 40 := by
    rw [hcast, sub_div, mul_div_cancel_right₀ r (by positivity)]
  have hsmall : |(⌊r * 2 ^ 40⌋ : ℝ) - r * 2 ^ 40| ≤ 1 + |r| := by
    rw [abs_le]
    have := abs_nonneg r
    constructor
    · linarith
    · linarith
  unfold Near
  push_cast
  rw [hdiff, abs_div, abs_of_pos (by positivity : (0 : ℝ) < 2 ^ 40)]
  exact div_le_div_of_nonneg_right hsmall (by positivity)

/-- The functions of the reals, rounded. -/
@[reducible] noncomputable def MathExp.rounded : MathExp where
  lgamma q := roundedDown (Real.log (Real.Gamma q))
  exp q := roundedDown (Real.exp q)
  log q := roundedDown (Real.log q)

theorem MathExp.rounded_accurate : @MathExp.Accurate MathExp.rounded :=
  @MathExp.Accurate.mk MathExp.rounded (fun q _ _ => near_roundedDown (Real.log (Real.Gamma q)))
    (fun q _ => near_roundedDown (Real.exp q)) (fun q _ => near_roundedDown (Real.log q))

end Py
