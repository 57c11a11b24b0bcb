import Mathlib.Algebra.Order.Floor.Ring
import Mathlib.Data.Nat.Sqrt
import Mathlib.Data.Rat.Floor
import Mathlib.Tactic.Linarith

/-! Python's `round` and percentage rendering on exact rationals. -/

namespace Py

/-- `math.sqrt`, about which nothing is assumed. -/
class MathSqrt where
  sqrt : ℚ → ℚ

/-- `math.sqrt` on the squares of rationals, where it is exact. -/
@[reducible] def MathSqrt.exact : MathSqrt where
  sqrt x := Nat.sqrt x.num.toNat / Nat.sqrt x.den

/-- `math.erfc`, about which nothing is assumed. -/
class MathErfc where
  erfc : ℚ → ℚ

/-- `math.erfc` at 0, where it is exact. -/
@[reducible] def MathErfc.atZero : MathErfc where
  erfc _ := 1

/-- The nearest integer, and the even one of two that are equally near. -/
def roundHalfEven (x : ℚ) : ℤ :=
  let below := x.floor
  let rest := x - below
  if rest < 1 / 2 then below
  else if 1 / 2 < rest then below + 1
  else if below % 2 = 0 then below
  else below + 1

/-- `round(x, digits)`. -/
def roundTo (digits : Nat) (x : ℚ) : ℚ := roundHalfEven (x * 10 ^ digits) / 10 ^ digits

theorem roundHalfEven_nonneg {x : ℚ} (h : 0 ≤ x) : 0 ≤ roundHalfEven x := by
  have hfloor : 0 ≤ x.floor := Rat.le_floor_iff.mpr (by simpa using h)
  simp only [roundHalfEven]
  split_ifs <;> omega

theorem roundHalfEven_le {x : ℚ} {n : ℤ} (h : x ≤ n) : roundHalfEven x ≤ n := by
  have hlow : (x.floor : ℚ) ≤ x := Rat.floor_le x
  have hfloor : x.floor ≤ n := by exact_mod_cast hlow.trans h
  rcases hfloor.lt_or_eq with hlt | heq
  · simp only [roundHalfEven]
    split_ifs <;> omega
  · have hx : x = x.floor := le_antisymm (by rw [heq]; exact h) hlow
    have hrest : x - x.floor < 1 / 2 := by rw [← hx]; norm_num
    simp only [roundHalfEven, if_pos hrest]
    exact hfloor

theorem roundTo_mem_unit {x : ℚ} (digits : Nat) (h0 : 0 ≤ x) (h1 : x ≤ 1) :
    0 ≤ roundTo digits x ∧ roundTo digits x ≤ 1 := by
  have hpos : (0 : ℚ) < 10 ^ digits := by positivity
  have hscaled : x * 10 ^ digits ≤ ((10 ^ digits : ℤ) : ℚ) := by
    push_cast
    exact mul_le_of_le_one_left hpos.le h1
  constructor
  · have : (0 : ℚ) ≤ roundHalfEven (x * 10 ^ digits) := by
      exact_mod_cast roundHalfEven_nonneg (mul_nonneg h0 hpos.le)
    exact div_nonneg this hpos.le
  · have : (roundHalfEven (x * 10 ^ digits) : ℚ) ≤ 10 ^ digits := by
      exact_mod_cast roundHalfEven_le hscaled
    exact (div_le_one hpos).mpr this

section Nearest

theorem roundHalfEven_near (x : ℚ) :
    x - 1 / 2 ≤ roundHalfEven x ∧ (roundHalfEven x : ℚ) ≤ x + 1 / 2 := by
  have hlow : (x.floor : ℚ) ≤ x := Rat.floor_le x
  have hhigh : x < x.floor + 1 := by exact_mod_cast Rat.lt_floor_add_one x
  simp only [roundHalfEven]
  split_ifs <;> push_cast <;> constructor <;> linarith

theorem roundHalfEven_eq {x : ℚ} {n : ℤ} (hlow : (n : ℚ) - 1 / 2 < x) (hhigh : x < n + 1 / 2) :
    roundHalfEven x = n := by
  obtain ⟨hbelow, habove⟩ := roundHalfEven_near x
  have hlt : (n : ℚ) - 1 < roundHalfEven x := by linarith
  have hgt : (roundHalfEven x : ℚ) < n + 1 := by linarith
  have hlt' : n - 1 < roundHalfEven x := by exact_mod_cast hlt
  have hgt' : roundHalfEven x < n + 1 := by exact_mod_cast hgt
  omega

/-- A number that is nearest to one with as many digits is rounded to it. -/
theorem roundTo_eq {x : ℚ} {digits : ℕ} {n : ℤ} (hlow : (n : ℚ) - 1 / 2 < x * 10 ^ digits)
    (hhigh : x * 10 ^ digits < n + 1 / 2) : roundTo digits x = n / 10 ^ digits := by
  rw [roundTo, roundHalfEven_eq hlow hhigh]

/-- Half way between two integers, the even one is taken. -/
theorem even_of_tie {x : ℚ} (h : x = roundHalfEven x + 1 / 2) : roundHalfEven x % 2 = 0 := by
  have hlow : (x.floor : ℚ) ≤ x := Rat.floor_le x
  have hhigh : x < x.floor + 1 := by exact_mod_cast Rat.lt_floor_add_one x
  simp only [roundHalfEven] at h ⊢
  split_ifs at h ⊢ with hless hmore heven
  · linarith
  · push_cast at h
    linarith
  · exact heven
  · push_cast at h
    linarith

theorem roundHalfEven_mono {x y : ℚ} (h : x ≤ y) : roundHalfEven x ≤ roundHalfEven y := by
  have hx := roundHalfEven_near x
  have hy := roundHalfEven_near y
  by_contra hlt
  have hstep : roundHalfEven y + 1 ≤ roundHalfEven x := by omega
  have hstep' : (roundHalfEven y : ℚ) + 1 ≤ roundHalfEven x := by exact_mod_cast hstep
  -- Then both are half way between the same two integers.
  have heq : x = y := le_antisymm h (by linarith [hx.2, hy.1])
  rw [heq] at hlt
  exact hlt le_rfl

variable (digits : Nat)

theorem roundTo_near (x : ℚ) : x - 1 / 10 ^ digits / 2 ≤ roundTo digits x ∧
    roundTo digits x ≤ x + 1 / 10 ^ digits / 2 := by
  have hpos : (0 : ℚ) < 10 ^ digits := by positivity
  obtain ⟨hlow, hhigh⟩ := roundHalfEven_near (x * 10 ^ digits)
  constructor
  · rw [roundTo, le_div_iff₀ hpos, sub_mul, div_mul_eq_mul_div, one_div_mul_cancel hpos.ne']
    exact hlow
  · rw [roundTo, div_le_iff₀ hpos, add_mul, div_mul_eq_mul_div, one_div_mul_cancel hpos.ne']
    exact hhigh

theorem roundTo_mono {x y : ℚ} (h : x ≤ y) : roundTo digits x ≤ roundTo digits y := by
  have hpos : (0 : ℚ) < 10 ^ digits := by positivity
  have hscaled : x * 10 ^ digits ≤ y * 10 ^ digits := mul_le_mul_of_nonneg_right h hpos.le
  have hround : (roundHalfEven (x * 10 ^ digits) : ℚ) ≤ roundHalfEven (y * 10 ^ digits) := by
    exact_mod_cast roundHalfEven_mono hscaled
  exact div_le_div_of_nonneg_right hround hpos.le

theorem roundTo_step {x y : ℚ} (h : roundTo digits x < roundTo digits y) :
    roundTo digits x + 1 / 10 ^ digits ≤ roundTo digits y := by
  have hpos : (0 : ℚ) < 10 ^ digits := by positivity
  have hlt : (roundHalfEven (x * 10 ^ digits) : ℚ) < roundHalfEven (y * 10 ^ digits) :=
    (div_lt_div_iff_of_pos_right hpos).mp h
  have hstep : roundHalfEven (x * 10 ^ digits) + 1 ≤ roundHalfEven (y * 10 ^ digits) := by
    exact_mod_cast hlt
  rw [roundTo, roundTo, ← add_div]
  exact div_le_div_of_nonneg_right (by exact_mod_cast hstep) hpos.le

/-- Of two neighbours only one has a number half way above it. -/
theorem roundTo_tie {x y : ℚ} (hx : x = roundTo digits x + 1 / 10 ^ digits / 2)
    (hy : y = roundTo digits y + 1 / 10 ^ digits / 2) :
    roundTo digits y ≠ roundTo digits x + 1 / 10 ^ digits := by
  have hpos : (0 : ℚ) < 10 ^ digits := by positivity
  have htie : ∀ {x : ℚ}, x = roundTo digits x + 1 / 10 ^ digits / 2 →
      roundHalfEven (x * 10 ^ digits) % 2 = 0 := by
    intro x hx
    apply even_of_tie
    have hscaled := congrArg (· * (10 : ℚ) ^ digits) hx
    simp only [roundTo, add_mul, div_mul_cancel₀ _ hpos.ne', div_mul_eq_mul_div] at hscaled
    exact hscaled
  have hevenx := htie hx
  have heveny := htie hy
  intro hnext
  rw [roundTo, roundTo, ← add_div, div_left_inj' hpos.ne'] at hnext
  have hnext' : roundHalfEven (y * 10 ^ digits) = roundHalfEven (x * 10 ^ digits) + 1 := by
    exact_mod_cast hnext
  omega

end Nearest

/-- `f"{x:.1%}"`. -/
def percent (x : ℚ) : String :=
  let tenths := (roundHalfEven (|x| * 1000)).toNat
  (if x < 0 then "-" else "") ++ toString (tenths / 10) ++ "." ++ toString (tenths % 10) ++ "%"

end Py
