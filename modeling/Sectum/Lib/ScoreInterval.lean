import Mathlib.Algebra.Order.Field.Basic
import Mathlib.Algebra.Order.Ring.Abs
import Mathlib.Tactic.FieldSimp
import Mathlib.Tactic.LinearCombination
import Mathlib.Tactic.Linarith
import Mathlib.Tactic.Positivity
import Mathlib.Tactic.Ring

/-! The score interval of a proportion `x` of a sample of size `n`, `z` deviations wide, over any
ordered field: the numbers `p` with `n * (p - x) ^ 2 ≤ z ^ 2 * p * (1 - p)`.  The square root of its
half width is given by what it squares to. -/

namespace ScoreInterval

variable {K : Type*} [Field K]

section Bounds

variable (n z x root : K)

def center : K := (x + z * z / ((2 : ℕ) * n)) / (1 + z * z / n)

/-- What the half width has the root of. -/
def radicand : K := x * (1 - x) / n + z * z / ((4 : ℕ) * n * n)

def halfWidth : K := z / (1 + z * z / n) * root

def low : K := center n z x - halfWidth n z root

def high : K := center n z x + halfWidth n z root

end Bounds

section Forms

variable (n z x : K)

theorem center_eq : center n z x = (x + z * z / (2 * n)) / (1 + z * z / n) := by
  rw [center, Nat.cast_ofNat]

theorem radicand_eq : radicand n z x = x * (1 - x) / n + z * z / (4 * n * n) := by
  rw [radicand, Nat.cast_ofNat]

end Forms

variable [LinearOrder K] [IsStrictOrderedRing K] {n z x y root rooty : K}

/-- `root` is the square root of the radicand. -/
structure IsRoot (n z x root : K) : Prop where
  nonneg : 0 ≤ root
  square : root * root = radicand n z x

theorem radicand_nonneg (hn : 0 < n) (hx : 0 ≤ x) (hx1 : x ≤ 1) : 0 ≤ radicand n z x := by
  have h1 : 0 ≤ 1 - x := sub_nonneg.mpr hx1
  have hz : 0 ≤ z * z := mul_self_nonneg z
  rw [radicand_eq]
  positivity

theorem radicand_mirror : radicand n z (1 - x) = radicand n z x := by
  unfold radicand
  ring

theorem IsRoot.mirror (h : IsRoot n z x root) : IsRoot n z (1 - x) root :=
  ⟨h.nonneg, by rw [radicand_mirror, h.square]⟩

theorem denominator_pos (z : K) (hn : 0 < n) : 0 < 1 + z * z / n := by
  have hz : 0 ≤ z * z := mul_self_nonneg z
  positivity

/-- The bounds over one denominator. -/
theorem low_eq (hn : 0 < n) :
    low n z x root = (n * x + z * z / 2 - z * (n * root)) / (n + z * z) := by
  have hden := denominator_pos z hn
  unfold low halfWidth
  rw [center_eq]
  field_simp

/-- The square of the scaled root. -/
theorem IsRoot.scaled (h : IsRoot n z x root) (hn : 0 < n) :
    (n * root) * (n * root) = n * x * (1 - x) + z * z / 4 := by
  have hsquare := h.square
  rw [radicand_eq] at hsquare
  calc (n * root) * (n * root) = n * n * (root * root) := by ring
    _ = n * x * (1 - x) + z * z / 4 := by
      rw [hsquare]
      field_simp

theorem high_eq_mirror (hn : 0 < n) : high n z x root = 1 - low n z (1 - x) root := by
  have hden := denominator_pos z hn
  unfold high low halfWidth
  rw [center_eq, center_eq]
  field_simp
  ring

theorem low_nonneg (h : IsRoot n z x root) (hn : 0 < n) (hz : 0 < z) (hx : 0 ≤ x) :
    0 ≤ low n z x root := by
  have hroot : 0 ≤ n * root := mul_nonneg hn.le h.nonneg
  have hscaled := h.scaled hn
  have hle : z * (n * root) ≤ n * x + z * z / 2 := by
    rw [← sq_le_sq₀ (by positivity) (by positivity)]
    have hgap : (n * x + z * z / 2) ^ 2 - (z * (n * root)) ^ 2 = (n + z * z) * n * x ^ 2 := by
      linear_combination (-(z * z)) * hscaled
    have hpos : 0 ≤ (n + z * z) * n * x ^ 2 := by positivity
    linarith
  rw [low_eq hn]
  exact div_nonneg (by linarith) (by positivity)

/-- The root outweighs the distance of the proportion from one half. -/
theorem IsRoot.slope (h : IsRoot n z x root) (hn : 0 < n) (hx : 0 ≤ x) (hx1 : x ≤ 1) :
    z * (1 / 2 - x) ≤ n * root := by
  have hroot : 0 ≤ n * root := mul_nonneg hn.le h.nonneg
  have hscaled := h.scaled hn
  have h1 : 0 ≤ 1 - x := sub_nonneg.mpr hx1
  apply le_of_sq_le_sq _ hroot
  have hgap : (n * root) ^ 2 - (z * (1 / 2 - x)) ^ 2 = (n + z * z) * x * (1 - x) := by
    linear_combination hscaled
  have hpos : 0 ≤ (n + z * z) * x * (1 - x) := by
    have hz : 0 ≤ z * z := mul_self_nonneg z
    positivity
  linarith

theorem low_le (h : IsRoot n z x root) (hn : 0 < n) (hz : 0 < z) (hx : 0 ≤ x) (hx1 : x ≤ 1) :
    low n z x root ≤ x := by
  have hslope := mul_le_mul_of_nonneg_left (h.slope hn hx hx1) hz.le
  rw [low_eq hn, div_le_iff₀ (by positivity)]
  linarith

/-- A greater proportion has a root that is greater by less than the step of the centre. -/
theorem low_mono (h : IsRoot n z x root) (hy : IsRoot n z y rooty) (hn : 0 < n) (hz : 0 < z)
    (hx0 : 0 ≤ x) (hxy : x ≤ y) (hy1 : y ≤ 1) : low n z x root ≤ low n z y rooty := by
  have hx1 : x ≤ 1 := hxy.trans hy1
  have hy0 : 0 ≤ y := hx0.trans hxy
  have hsum : z * (1 - x - y) ≤ n * root + n * rooty := by
    have := h.slope hn hx0 hx1
    have := hy.slope hn hy0 hy1
    linarith
  have hpos : 0 < n * root + n * rooty := by
    have hscaled := h.scaled hn
    have hrest : 0 ≤ n * x * (1 - x) := by
      have h1 : 0 ≤ 1 - x := sub_nonneg.mpr hx1
      positivity
    have hz2 : 0 < z * z / 4 := by positivity
    have hne : n * root ≠ 0 := by
      intro hzero
      rw [hzero] at hscaled
      linarith
    have hroot : 0 < n * root := lt_of_le_of_ne (mul_nonneg hn.le h.nonneg) hne.symm
    have hrooty : 0 ≤ n * rooty := mul_nonneg hn.le hy.nonneg
    linarith
  have hdiff : z * (n * rooty - n * root) ≤ n * (y - x) := by
    apply le_of_mul_le_mul_right _ hpos
    have hsquares : (n * rooty - n * root) * (n * root + n * rooty) = n * (y - x) * (1 - x - y) := by
      linear_combination hy.scaled hn - h.scaled hn
    calc z * (n * rooty - n * root) * (n * root + n * rooty)
        = n * (y - x) * (z * (1 - x - y)) := by linear_combination z * hsquares
      _ ≤ n * (y - x) * (n * root + n * rooty) := by
        apply mul_le_mul_of_nonneg_left hsum
        exact mul_nonneg hn.le (sub_nonneg.mpr hxy)
  rw [low_eq hn, low_eq hn]
  apply div_le_div_of_nonneg_right _ (by positivity)
  linarith

section Mirrored

variable (h : IsRoot n z x root) (hn : 0 < n) (hz : 0 < z)

include h hn hz

theorem le_high (hx : 0 ≤ x) (hx1 : x ≤ 1) : x ≤ high n z x root := by
  have := low_le h.mirror hn hz (by linarith) (by linarith)
  rw [high_eq_mirror hn]
  linarith

theorem high_le_one (hx1 : x ≤ 1) : high n z x root ≤ 1 := by
  have := low_nonneg h.mirror hn hz (by linarith)
  rw [high_eq_mirror hn]
  linarith

theorem high_mono (hy : IsRoot n z y rooty) (hx0 : 0 ≤ x) (hxy : x ≤ y) (hy1 : y ≤ 1) :
    high n z x root ≤ high n z y rooty := by
  have := low_mono hy.mirror h.mirror hn hz (by linarith) (by linarith) (by linarith)
  rw [high_eq_mirror hn, high_eq_mirror hn]
  linarith

end Mirrored

end ScoreInterval
