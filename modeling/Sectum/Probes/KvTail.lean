import Mathlib.Analysis.Complex.ExponentialBounds
import Mathlib.Analysis.SpecialFunctions.Gamma.BohrMollerup
import Sectum.Probes.KvTiming

/-! With 46 degrees of freedom, a gap of 13 standard errors and more leaves no tail that ten digits show:
the continued fraction of the incomplete beta function stays below 2, and what stands before it vanishes. -/

namespace Sectum

open Py

namespace KvCacheTimingProbe

section Fraction

variable {a b x : ℚ}

/-- Where the loop is bounded: `x` is small, and `b` is not above 1. -/
structure SmallTail (a b x : ℚ) : Prop where
  one_le_a : 1 ≤ a
  b_nonneg : 0 ≤ b
  b_le : b ≤ 1
  x_nonneg : 0 ≤ x
  x_le : x ≤ 1 / 4

theorem SmallTail.evenTerm (h : SmallTail a b x) {m : ℚ} (hm : 1 ≤ m) :
    -(1 / 4) ≤ evenTerm a b x m ∧ evenTerm a b x m ≤ 0 := by
  obtain ⟨ha, hb, hb', hx, hx'⟩ := h
  have hpos : 0 < (a - 1 + 2 * m) * (a + 2 * m) := mul_pos (by linarith) (by linarith)
  have hden : m * m ≤ (a - 1 + 2 * m) * (a + 2 * m) :=
    mul_le_mul (by linarith) (by linarith) (by linarith) (by linarith)
  have hnum : m * (m - b) * x ≤ m * m * (1 / 4) :=
    mul_le_mul (mul_le_mul_of_nonneg_left (by linarith) (by linarith)) hx' hx
      (mul_nonneg (by linarith) (by linarith))
  have hsign : 0 ≤ m * (m - b) * x := mul_nonneg (mul_nonneg (by linarith) (by linarith)) hx
  unfold KvCacheTimingProbe.evenTerm
  constructor
  · rw [le_div_iff₀ hpos]
    linarith
  · rw [div_le_iff₀ hpos]
    linarith

theorem SmallTail.oddTerm (h : SmallTail a b x) {m : ℚ} (hm : 1 ≤ m) :
    -(1 / 4) ≤ oddTerm a b x m ∧ oddTerm a b x m ≤ 0 := by
  obtain ⟨ha, hb, hb', hx, hx'⟩ := h
  have hpos : 0 < (a + 2 * m) * (a + 1 + 2 * m) := mul_pos (by linarith) (by linarith)
  have hden : (a + m) * (a + b + m) ≤ (a + 2 * m) * (a + 1 + 2 * m) :=
    mul_le_mul (by linarith) (by linarith) (by linarith) (by linarith)
  have hsign : 0 ≤ (a + m) * (a + b + m) := mul_nonneg (by linarith) (by linarith)
  have hnum : (a + m) * (a + b + m) * x ≤ (a + m) * (a + b + m) * (1 / 4) :=
    mul_le_mul_of_nonneg_left hx' hsign
  have hsign' : 0 ≤ (a + m) * (a + b + m) * x := mul_nonneg hsign hx
  unfold KvCacheTimingProbe.oddTerm
  constructor
  · rw [le_div_iff₀ hpos]
    linarith
  · rw [div_le_iff₀ hpos]
    linarith

theorem tiny_le : tiny ≤ 1 / 2 := by
  have hpow : (2 : ℚ) ≤ 10 ^ 300 :=
    (by norm_num : (2 : ℚ) ≤ 10).trans (le_self_pow₀ (by norm_num) (by norm_num))
  exact one_div_le_one_div_of_le (by norm_num) hpow

theorem SmallTail.betacfFrom (h : SmallTail a b x) (rounds : Nat) {m : Nat} (hm : 1 ≤ m)
    {s : Lentz.State ℚ} (hs : s.Bounded) :
    0 ≤ betacfFrom a b x rounds m s ∧ betacfFrom a b x rounds m s ≤ 2 := by
  induction rounds generalizing m s with
  | zero => exact ⟨hs.nonneg, hs.le_two⟩
  | succ rounds ih =>
    have hm' : (1 : ℚ) ≤ m := by exact_mod_cast hm
    obtain ⟨hlow, hhigh⟩ := h.evenTerm hm'
    obtain ⟨hlow', hhigh'⟩ := h.oddTerm hm'
    have hlast := (hs.step tiny_le hlow hhigh).step tiny_le hlow' hhigh'
    unfold KvCacheTimingProbe.betacfFrom
    dsimp only
    split
    · exact ⟨hlast.nonneg, hlast.le_two⟩
    · exact ih (Nat.le_add_left 1 m) hlast

/-- The fraction is between 0 and 2. -/
theorem SmallTail.betacf (h : SmallTail a b x) : 0 ≤ betacf a b x ∧ betacf a b x ≤ 2 := by
  obtain ⟨ha, hb, hb', hx, hx'⟩ := id h
  have hpos : 0 < a + 1 := by linarith
  have hratio : 0 ≤ (a + b) * x / (a + 1) ∧ (a + b) * x / (a + 1) ≤ 1 / 4 := by
    refine ⟨div_nonneg (mul_nonneg (by linarith) hx) hpos.le, ?_⟩
    rw [div_le_iff₀ hpos]
    have := mul_le_mul (by linarith : a + b ≤ a + 1) hx' hx hpos.le
    linarith
  exact h.betacfFrom maxIterations le_rfl
    (Lentz.State.bounded_start tiny_le (by linarith) (by linarith))

end Fraction

section Front

theorem log_le_of_le_two_pow {r : ℝ} (n : Nat) (hpos : 0 < r) (h : r ≤ 2 ^ n) :
    Real.log r ≤ n * (7 / 10) := by
  have hlog := Real.log_le_log hpos h
  rw [Real.log_pow] at hlog
  have htwo := Real.log_two_lt_d9
  have hn : (0 : ℝ) ≤ n := Nat.cast_nonneg n
  exact hlog.trans (mul_le_mul_of_nonneg_left (by linarith) hn)

theorem one_le_gamma : 1 ≤ Real.Gamma 23 ∧ Real.Gamma 23 ≤ 2 ^ 70 := by
  have hfactorial : Real.Gamma 23 = (Nat.factorial 22 : ℝ) := by
    rw [← Real.Gamma_nat_eq_factorial]
    norm_num
  rw [hfactorial]
  exact ⟨by exact_mod_cast Nat.one_le_iff_ne_zero.mpr (Nat.factorial_ne_zero 22),
    by norm_num [Nat.factorial]⟩

theorem logGamma_mem : 0 ≤ Real.log (Real.Gamma 23) ∧ Real.log (Real.Gamma 23) ≤ 49 := by
  obtain ⟨hone, hle⟩ := one_le_gamma
  exact ⟨Real.log_nonneg hone, (log_le_of_le_two_pow 70 (by linarith) hle).trans (by norm_num)⟩

/-- Between 23 and 24 the logarithm of the gamma function is below its chord. -/
theorem logGamma_middle : Real.log (Real.Gamma 23) ≤ Real.log (Real.Gamma (47 / 2)) ∧
    Real.log (Real.Gamma (47 / 2)) ≤ Real.log (Real.Gamma 23) + 7 / 4 := by
  have hpos : 0 < Real.Gamma 23 := by linarith [one_le_gamma.1]
  have hmono : Real.Gamma 23 ≤ Real.Gamma (47 / 2) :=
    Real.Gamma_strictMonoOn_Ici.monotoneOn (Set.mem_Ici.mpr (by norm_num))
      (Set.mem_Ici.mpr (by norm_num)) (by norm_num)
  have hconvex := Real.convexOn_log_Gamma.2 (Set.mem_Ioi.mpr (by norm_num : (0 : ℝ) < 23))
    (Set.mem_Ioi.mpr (by norm_num : (0 : ℝ) < 24)) (by norm_num : (0 : ℝ) ≤ 1 / 2)
    (by norm_num : (0 : ℝ) ≤ 1 / 2) (by norm_num)
  have hmiddle : (1 / 2 : ℝ) • (23 : ℝ) + (1 / 2 : ℝ) • 24 = 47 / 2 := by norm_num
  have hnext : Real.log (Real.Gamma 24) = Real.log 23 + Real.log (Real.Gamma 23) := by
    rw [show (24 : ℝ) = 23 + 1 by norm_num, Real.Gamma_add_one (by norm_num),
      Real.log_mul (by norm_num) hpos.ne']
  have hlog := log_le_of_le_two_pow 5 (by norm_num : (0 : ℝ) < 23) (by norm_num)
  rw [hmiddle] at hconvex
  simp only [Function.comp_apply, smul_eq_mul, hnext] at hconvex
  norm_num at hlog
  exact ⟨Real.log_le_log hpos hmono, by linarith⟩

theorem logGamma_half : 0 ≤ Real.log (Real.Gamma (1 / 2)) ∧ Real.log (Real.Gamma (1 / 2)) ≤ 1 := by
  rw [Real.Gamma_one_half_eq]
  have hlow := Real.two_le_pi
  have hhigh := Real.pi_le_four
  have hone : 1 ≤ √Real.pi := Real.one_le_sqrt.mpr (by linarith)
  have htwo : √Real.pi ≤ 2 := Real.sqrt_le_iff.mpr ⟨by norm_num, by norm_num; exact hhigh⟩
  refine ⟨Real.log_nonneg hone, ?_⟩
  have hlog := Real.log_le_sub_one_of_pos (by linarith : 0 < √Real.pi)
  linarith

variable [MathExp] (h : MathExp.Accurate)

include h

/-- The logarithm of the reciprocal of the beta function, as it is computed. -/
theorem logBeta_le :
    ((MathExp.lgamma (47 / 2) - MathExp.lgamma 23 - MathExp.lgamma (1 / 2) : ℚ) : ℝ) ≤ 2 := by
  have hpow : (2 : ℚ) ^ 7 ≤ 2 ^ 1000 := pow_le_pow_right₀ (by norm_num) (by norm_num)
  have hfirst := abs_le.mp (h.lgamma (47 / 2) (by norm_num) (le_trans (by norm_num) hpow))
  have hsecond := abs_le.mp (h.lgamma 23 (by norm_num) (le_trans (by norm_num) hpow))
  have hthird := abs_le.mp (h.lgamma (1 / 2) (by norm_num) (le_trans (by norm_num) hpow))
  push_cast at hfirst hsecond hthird ⊢
  obtain ⟨hnonneg, hle⟩ := logGamma_mem
  obtain ⟨hmono, hmiddle⟩ := logGamma_middle
  obtain ⟨hhalf, hhalf'⟩ := logGamma_half
  rw [abs_of_nonneg (hnonneg.trans hmono)] at hfirst
  rw [abs_of_nonneg hnonneg] at hsecond
  rw [abs_of_nonneg hhalf] at hthird
  linarith

/-- The logarithm of a number up to a quarter, as it is computed. -/
theorem log_quarter_le {x : ℚ} (hx : 0 < x) (hx' : x ≤ 1 / 4) : (MathExp.log x : ℝ) ≤ -(138 / 100) := by
  have hpos : (0 : ℝ) < x := by exact_mod_cast hx
  have hle : (x : ℝ) ≤ (2 ^ 2)⁻¹ := by
    have hcast : (x : ℝ) ≤ ((1 / 4 : ℚ) : ℝ) := by exact_mod_cast hx'
    push_cast at hcast
    linarith
  have hlog := Real.log_le_log hpos hle
  rw [Real.log_inv, Real.log_pow] at hlog
  have htwo := Real.log_two_gt_d9
  have hnear := (abs_le.mp (h.log x hx)).2
  push_cast at hlog
  rw [abs_of_nonpos (by linarith)] at hnear
  linarith

/-- The logarithm of what is left of one. -/
theorem log_rest_le {x : ℚ} (hx : 0 < x) (hx' : x ≤ 1 / 4) : (MathExp.log (1 - x) : ℝ) ≤ 1 / 100 := by
  have hcast : (x : ℝ) ≤ ((1 / 4 : ℚ) : ℝ) := by exact_mod_cast hx'
  have hpos : (0 : ℝ) < x := by exact_mod_cast hx
  push_cast at hcast
  have hrest : (0 : ℝ) < 1 - x := by linarith
  have hnear := (abs_le.mp (h.log (1 - x) (by linarith))).2
  push_cast at hnear
  have hlow := Real.one_sub_inv_le_log_of_pos hrest
  have hinv : (1 - (x : ℝ))⁻¹ ≤ 2 := by
    rw [inv_le_comm₀ hrest (by norm_num)]
    linarith
  have hhigh := Real.log_nonpos hrest.le (by linarith)
  rw [abs_of_nonpos hhigh] at hnear
  linarith

/-- An exponential that forty binary digits do not tell from zero. -/
theorem exp_small {q : ℚ} (hq : (q : ℝ) ≤ -28) : |(MathExp.exp q : ℝ)| ≤ 3 / 2 ^ 40 := by
  have hlevel : q ≤ 700 := by
    have hcast : (q : ℝ) ≤ ((700 : ℚ) : ℝ) := by
      push_cast
      linarith
    exact_mod_cast hcast
  have hexp : Real.exp q ≤ 1 / 2 ^ 40 := by
    have htwo := Real.log_two_lt_d9
    rw [← Real.le_log_iff_exp_le (by positivity), one_div, Real.log_inv, Real.log_pow]
    push_cast
    linarith
  have hpos := Real.exp_pos q
  have hnear := abs_le.mp (h.exp q hlevel)
  rw [abs_of_pos hpos] at hnear
  rw [abs_le]
  constructor
  · linarith
  · linarith

/-- Thirteen standard errors are past what ten digits of the tail show. -/
theorem tail_negligible {t : ℚ} (ht : 13 ≤ t) : |studentTSf (some t) 46| < 1 / (2 * 10 ^ 10) := by
  have hsquare : 169 ≤ t * t := by nlinarith
  have hx : 0 < 46 / (46 + t * t) := div_pos (by norm_num) (by linarith)
  have hx' : 46 / (46 + t * t) ≤ 1 / 4 := by
    rw [div_le_div_iff₀ (by linarith) (by norm_num)]
    linarith
  have hhalf : (46 : ℚ) / 2 = 23 := by norm_num
  have hsum : (23 : ℚ) + 1 / 2 = 47 / 2 := by norm_num
  unfold studentTSf
  rw [if_neg (by norm_num), Option.map_some, Option.getD_some, hhalf]
  generalize 46 / (46 + t * t) = x at hx hx'
  have hfraction := (⟨by norm_num, by norm_num, by norm_num, hx.le, hx'⟩ :
    SmallTail 23 (1 / 2) x).betacf
  have hexponent : ((MathExp.lgamma (47 / 2) - MathExp.lgamma 23 - MathExp.lgamma (1 / 2) +
      23 * MathExp.log x + 1 / 2 * MathExp.log (1 - x) : ℚ) : ℝ) ≤ -28 := by
    have hbeta := logBeta_le h
    have hlog := log_quarter_le h hx hx'
    have hrest := log_rest_le h hx hx'
    push_cast at hbeta ⊢
    linarith
  have hfront := exp_small h hexponent
  unfold betai
  rw [if_neg (by linarith), if_neg (by linarith), hsum]
  dsimp only
  rw [if_pos (by linarith)]
  generalize MathExp.exp _ = front at hfront ⊢
  generalize betacf 23 (1 / 2) x = value at hfraction ⊢
  have hfront' : |front| ≤ 3 / 2 ^ 40 := by
    have hcast : ((|front| : ℚ) : ℝ) ≤ ((3 / 2 ^ 40 : ℚ) : ℝ) := by
      push_cast
      exact hfront
    exact_mod_cast hcast
  rw [abs_div, abs_mul, abs_of_nonneg hfraction.1, abs_of_pos (by norm_num : (0 : ℚ) < 23),
    div_lt_iff₀ (by norm_num)]
  calc |front| * value ≤ 3 / 2 ^ 40 * 2 :=
        mul_le_mul hfront' hfraction.2 hfraction.1 (by positivity)
    _ < 1 / (2 * 10 ^ 10) * 23 := by norm_num

end Front

end KvCacheTimingProbe

end Sectum
