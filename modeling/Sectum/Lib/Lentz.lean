import Mathlib.Algebra.Order.Field.Basic
import Mathlib.Tactic.FieldSimp
import Mathlib.Tactic.Linarith
import Mathlib.Tactic.Ring

/-! The modified Lentz evaluation of a continued fraction: each step multiplies the value by the quotient of
two recurrences, and a denominator that is nearly zero is replaced by a tiny number.  Where every partial
numerator is between -1/4 and 0, no denominator is near zero and the value stays below 2. -/

namespace Lentz

variable {K : Type} [Field K] [LinearOrder K]

/-- The two recurrences and the value. -/
structure State (K : Type) where
  c : K
  d : K
  h : K

/-- A number that is nearer to zero than `tiny` is replaced by it. -/
def guarded (tiny x : K) : K := if |x| < tiny then tiny else x

/-- The first state, for a first denominator. -/
def State.start (tiny first : K) : State K :=
  let d := 1 / guarded tiny first
  ⟨1, d, d⟩

/-- A step with the next partial numerator. -/
def State.step (tiny : K) (s : State K) (a : K) : State K :=
  let d := guarded tiny (1 + a * s.d)
  let c := guarded tiny (1 + a / s.c)
  ⟨c, 1 / d, s.h * (1 / d * c)⟩

theorem guarded_eq [IsStrictOrderedRing K] {tiny x : K} (h : tiny ≤ x) : guarded tiny x = x := by
  unfold guarded
  rw [if_neg (not_lt.mpr (h.trans (le_abs_self x)))]

variable [IsStrictOrderedRing K]

/-- What the partial numerators between -1/4 and 0 keep. -/
structure State.Bounded (s : State K) : Prop where
  c_le : s.c ≤ 1
  one_le_d : 1 ≤ s.d
  d_lt : s.d < 2
  one_le_mul : 1 ≤ s.c * s.d
  nonneg : 0 ≤ s.h
  value : s.h * (2 * s.c - 1) ≤ 2 * s.c * (2 - s.d)

variable {s : State K}

theorem State.Bounded.c_gt (h : s.Bounded) : 1 / 2 < s.c := by
  have hone := h.one_le_mul
  have hd := h.d_lt
  have hpos : 0 < s.c := by
    by_contra hle
    have := mul_nonpos_of_nonpos_of_nonneg (not_lt.mp hle) (zero_le_one.trans h.one_le_d)
    linarith
  nlinarith

theorem State.Bounded.le_two (h : s.Bounded) : s.h ≤ 2 := by
  have hc := h.c_gt
  have hone := h.one_le_mul
  have hvalue := h.value
  have hpos : 0 < 2 * s.c - 1 := by linarith
  refine le_of_mul_le_mul_right ?_ hpos
  calc s.h * (2 * s.c - 1) ≤ 2 * s.c * (2 - s.d) := hvalue
    _ = 4 * s.c - 2 * (s.c * s.d) := by ring
    _ ≤ 2 * (2 * s.c - 1) := by linarith

variable {tiny first a : K}

theorem State.bounded_start (htiny : tiny ≤ 1 / 2) (hlow : 3 / 4 ≤ first) (hhigh : first ≤ 1) :
    (State.start tiny first).Bounded := by
  have hguard : guarded tiny first = first := guarded_eq (by linarith)
  have hpos : 0 < first := by linarith
  have hone : 1 ≤ 1 / first := by rwa [le_div_iff₀ hpos, one_mul]
  have hthird : 1 / first ≤ 4 / 3 := by
    rw [div_le_iff₀ hpos]
    linarith
  unfold State.start
  rw [hguard]
  exact ⟨le_refl 1, hone, by simp only; linarith, by simpa using hone, by simp only; linarith,
    by simp only; linarith⟩

/-- The denominators of a step are more than one half. -/
theorem State.Bounded.denominators (h : s.Bounded) (hlow : -(1 / 4) ≤ a) (hhigh : a ≤ 0) :
    1 / 2 < 1 + a * s.d ∧ 1 + a * s.d ≤ 1 + a / s.c ∧ 1 + a / s.c ≤ 1 := by
  have hc := h.c_gt
  have hcpos : 0 < s.c := by linarith
  have hratio : a * s.d ≤ a / s.c := by
    rw [le_div_iff₀ hcpos]
    nlinarith [h.one_le_mul]
  have hneg := div_nonpos_of_nonpos_of_nonneg hhigh hcpos.le
  refine ⟨?_, by linarith, by linarith⟩
  nlinarith [h.d_lt, h.one_le_d]

/-- A convex combination of the bound on the value and of twice the bound on it. -/
theorem State.Bounded.mul_le (h : s.Bounded) (hlow : -(1 / 4) ≤ a) (hhigh : a ≤ 0) :
    s.h * (s.c + 2 * a) ≤ 2 * s.c * (1 + 2 * (a * s.d)) := by
  have hcpos : 0 ≤ s.c := by linarith [h.c_gt]
  have hfirst : (1 + 4 * a) * (s.h * s.c) ≤ (1 + 4 * a) * (2 * s.c) :=
    mul_le_mul_of_nonneg_left (mul_le_mul_of_nonneg_right h.le_two hcpos) (by linarith)
  have hsecond : -4 * a * (s.h * (2 * s.c - 1)) ≤ -4 * a * (2 * s.c * (2 - s.d)) :=
    mul_le_mul_of_nonneg_left h.value (by linarith)
  linarith

/-- A step keeps the bounds. -/
theorem State.Bounded.step (h : s.Bounded) (htiny : tiny ≤ 1 / 2) (hlow : -(1 / 4) ≤ a) (hhigh : a ≤ 0) :
    (s.step tiny a).Bounded := by
  obtain ⟨hden, hratio, hnum⟩ := h.denominators hlow hhigh
  have hcpos : 0 < s.c := by linarith [h.c_gt]
  have hone := h.one_le_d
  have hd : guarded tiny (1 + a * s.d) = 1 + a * s.d := guarded_eq (by linarith)
  have hc : guarded tiny (1 + a / s.c) = 1 + a / s.c := guarded_eq (by linarith)
  have hsum : s.h * (2 * (1 + a / s.c) - 1) ≤ 2 * (1 + 2 * (a * s.d)) := by
    have hscaled : s.h * (2 * (1 + a / s.c) - 1) * s.c = s.h * (s.c + 2 * a) := by
      field_simp
      ring
    refine le_of_mul_le_mul_right ?_ hcpos
    rw [hscaled]
    linarith [h.mul_le hlow hhigh]
  have hlast : 1 + a * s.d ≤ 1 := by nlinarith
  unfold State.step
  rw [hd, hc]
  generalize 1 + a / s.c = c at hratio hnum hsum
  have hback : 2 * (1 + 2 * (a * s.d)) = 2 * (2 * (1 + a * s.d) - 1) := by ring
  rw [hback] at hsum
  generalize 1 + a * s.d = d at hden hratio hsum hlast
  have hdpos : 0 < d := by linarith
  have hdelta : 1 ≤ 1 / d * c := by
    rw [one_div_mul_eq_div, le_div_iff₀ hdpos, one_mul]
    exact hratio
  refine ⟨hnum, ?_, ?_, ?_, ?_, ?_⟩
  · simp only
    rw [le_div_iff₀ hdpos, one_mul]
    exact hlast
  · simp only
    rw [div_lt_iff₀ hdpos]
    linarith
  · simp only
    rwa [mul_comm]
  · exact mul_nonneg h.nonneg (zero_le_one.trans hdelta)
  · have hclear : s.h * (1 / d * c) * (2 * c - 1) = c / d * (s.h * (2 * c - 1)) := by
      field_simp
    have hclear' : 2 * c * (2 - 1 / d) = c / d * (2 * (2 * d - 1)) := by
      field_simp
    simp only
    rw [hclear, hclear']
    exact mul_le_mul_of_nonneg_left hsum (div_nonneg (by linarith) hdpos.le)

end Lentz
