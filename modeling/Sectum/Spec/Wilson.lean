import Mathlib.Analysis.Real.Sqrt
import Sectum.Lib.ScoreInterval
import Sectum.Spec.Stats

/-! The bounds of `wilson_interval` before they are clamped, over any numbers, and what they satisfy
where the square root is exact. -/

namespace Sectum

open Py ScoreInterval

/-- `center - half_width` and `center + half_width`. -/
def wilsonBounds {K : Type} [Field K] (sqrt : K → K) (successes trials : Nat) (z : K) : K × K :=
  let n : K := trials
  let zSq := z * z
  let pHat := successes / n
  let denominator := 1 + zSq / n
  let center := (pHat + zSq / (2 * n)) / denominator
  let halfWidth := z / denominator * sqrt (pHat * (1 - pHat) / n + zSq / (4 * n * n))
  (center - halfWidth, center + halfWidth)

section Interval

variable [MathSqrt] [MathErfc] {successes trials : Nat} {confidence z : ℚ}

/-- `wilson_interval` clamps these bounds, for the quantile of its confidence. -/
theorem wilsonInterval_eq (hle : successes ≤ trials) (htrials : 0 < trials)
    (hconfidence : 0 < confidence ∧ confidence < 1)
    (hz : normalQuantile ((1 + confidence) / 2) = .ok z) :
    wilsonInterval successes trials confidence =
      .ok (max 0 (wilsonBounds MathSqrt.sqrt successes trials z).1,
        min 1 (wilsonBounds MathSqrt.sqrt successes trials z).2) := by
  rw [wilsonInterval, if_neg (by omega), if_neg (not_not.mpr hconfidence), if_neg (by omega), hz]
  rfl

end Interval

section Exact

variable {K : Type} [Field K] {sqrt : K → K} {successes more trials : Nat} {z : K}

theorem wilsonBounds_eq (sqrt : K → K) (successes trials : Nat) (z : K) :
    wilsonBounds sqrt successes trials z =
      (low (trials : K) z (successes / trials) (sqrt (radicand (trials : K) z (successes / trials))),
        high (trials : K) z (successes / trials)
          (sqrt (radicand (trials : K) z (successes / trials)))) :=
  rfl

variable [LinearOrder K] [IsStrictOrderedRing K]

/-- The square root is exact where `wilson_interval` takes it. -/
def RootAt (sqrt : K → K) (successes trials : Nat) (z : K) : Prop :=
  IsRoot (trials : K) z (successes / trials) (sqrt (radicand (trials : K) z (successes / trials)))

theorem share_le_one (hle : successes ≤ trials) : (successes / trials : K) ≤ 1 :=
  div_le_one_of_le₀ (by exact_mod_cast hle) (Nat.cast_nonneg trials)

theorem share_mirror (hle : successes ≤ trials) (htrials : 0 < trials) :
    ((trials - successes : Nat) / trials : K) = 1 - successes / trials := by
  have htrials' : (trials : K) ≠ 0 := by exact_mod_cast htrials.ne'
  rw [Nat.cast_sub hle, sub_div, div_self htrials']

/-- An interval that lies in the unit interval and holds the share. -/
structure HoldsShare (successes trials : Nat) (bounds : K × K) : Prop where
  nonneg : 0 ≤ bounds.1
  low_le : bounds.1 ≤ successes / trials
  le_high : (successes / trials : K) ≤ bounds.2
  le_one : bounds.2 ≤ 1

omit [IsStrictOrderedRing K] in
theorem HoldsShare.clamp {bounds : K × K} (h : HoldsShare successes trials bounds) :
    (max 0 bounds.1, min 1 bounds.2) = bounds := by
  rw [max_eq_right h.nonneg, min_eq_right h.le_one]

theorem wilsonBounds_holdsShare (hroot : RootAt sqrt successes trials z) (hle : successes ≤ trials)
    (htrials : 0 < trials) (hz : 0 < z) :
    HoldsShare successes trials (wilsonBounds sqrt successes trials z) := by
  have hn : (0 : K) < trials := by exact_mod_cast htrials
  have hshare : (0 : K) ≤ successes / trials := by positivity
  have hshare1 : (successes / trials : K) ≤ 1 := share_le_one hle
  rw [wilsonBounds_eq]
  exact ⟨low_nonneg hroot hn hz hshare, low_le hroot hn hz hshare hshare1,
    le_high hroot hn hz hshare hshare1, high_le_one hroot hn hz hshare1⟩

theorem wilsonBounds_mirror (sqrt : K → K) (z : K) (hle : successes ≤ trials) (htrials : 0 < trials) :
    wilsonBounds sqrt (trials - successes) trials z =
      (1 - (wilsonBounds sqrt successes trials z).2,
        1 - (wilsonBounds sqrt successes trials z).1) := by
  have hn : (0 : K) < trials := by exact_mod_cast htrials
  have hback : (1 : K) - (1 - successes / trials) = successes / trials := by ring
  simp only [wilsonBounds_eq, share_mirror hle htrials, radicand_mirror]
  rw [high_eq_mirror hn, high_eq_mirror hn, hback, sub_sub_cancel]

theorem wilsonBounds_mono (hroot : RootAt sqrt successes trials z)
    (hrootMore : RootAt sqrt more trials z) (hle : successes ≤ more) (hmore : more ≤ trials)
    (htrials : 0 < trials) (hz : 0 < z) :
    (wilsonBounds sqrt successes trials z).1 ≤ (wilsonBounds sqrt more trials z).1 ∧
      (wilsonBounds sqrt successes trials z).2 ≤ (wilsonBounds sqrt more trials z).2 := by
  have hn : (0 : K) < trials := by exact_mod_cast htrials
  have hshare : (0 : K) ≤ successes / trials := by positivity
  have hshares : (successes / trials : K) ≤ more / trials := by gcongr
  have hshare1 : (more / trials : K) ≤ 1 := share_le_one hmore
  simp only [wilsonBounds_eq]
  exact ⟨low_mono hroot hrootMore hn hz hshare hshares hshare1,
    high_mono hroot hn hz hrootMore hshare hshares hshare1⟩

end Exact

/-- Where its square root is exact and its quantile positive, `wilson_interval` clamps nothing. -/
theorem wilsonInterval_exact [MathSqrt] [MathErfc] {successes trials : Nat} {confidence z : ℚ}
    (hle : successes ≤ trials) (htrials : 0 < trials)
    (hconfidence : 0 < confidence ∧ confidence < 1)
    (hquantile : normalQuantile ((1 + confidence) / 2) = .ok z) (hz : 0 < z)
    (hroot : RootAt MathSqrt.sqrt successes trials z) :
    wilsonInterval successes trials confidence =
      .ok (wilsonBounds MathSqrt.sqrt successes trials z) := by
  rw [wilsonInterval_eq hle htrials hconfidence hquantile,
    (wilsonBounds_holdsShare hroot hle htrials hz).clamp]

section Real

variable {successes trials : Nat} {z : ℝ}

theorem rootAt_real (hle : successes ≤ trials) (htrials : 0 < trials) (z : ℝ) :
    RootAt Real.sqrt successes trials z := by
  have hn : (0 : ℝ) < trials := by exact_mod_cast htrials
  have hnonneg : 0 ≤ radicand (trials : ℝ) z (successes / trials) :=
    radicand_nonneg hn (by positivity) (share_le_one hle)
  exact ⟨Real.sqrt_nonneg _, Real.mul_self_sqrt hnonneg⟩

/-- The interval is sound in exact arithmetic: it holds the share and lies in the unit interval, so
that the clamp changes nothing, its mirror image is the interval of the failures, and both of its
bounds follow the number of successes. -/
theorem wilsonBounds_sound (hle : successes ≤ trials) (htrials : 0 < trials) (hz : 0 < z) :
    HoldsShare successes trials (wilsonBounds Real.sqrt successes trials z) ∧
      (max 0 (wilsonBounds Real.sqrt successes trials z).1,
        min 1 (wilsonBounds Real.sqrt successes trials z).2) =
          wilsonBounds Real.sqrt successes trials z ∧
      wilsonBounds Real.sqrt (trials - successes) trials z =
        (1 - (wilsonBounds Real.sqrt successes trials z).2,
          1 - (wilsonBounds Real.sqrt successes trials z).1) ∧
      ∀ more, successes ≤ more → more ≤ trials →
        (wilsonBounds Real.sqrt successes trials z).1 ≤ (wilsonBounds Real.sqrt more trials z).1 ∧
          (wilsonBounds Real.sqrt successes trials z).2 ≤
            (wilsonBounds Real.sqrt more trials z).2 := by
  have hroot := rootAt_real hle htrials z
  have hholds := wilsonBounds_holdsShare hroot hle htrials hz
  refine ⟨hholds, hholds.clamp, wilsonBounds_mirror Real.sqrt z hle htrials, ?_⟩
  intro more hsucc hmore
  exact wilsonBounds_mono hroot (rootAt_real hmore htrials z) hsucc hmore htrials hz

theorem wilsonBounds_sound_none :
    HoldsShare 0 3 (wilsonBounds Real.sqrt 0 3 2) ∧
      (max 0 (wilsonBounds Real.sqrt 0 3 2).1, min 1 (wilsonBounds Real.sqrt 0 3 2).2) =
        wilsonBounds Real.sqrt 0 3 2 ∧
      wilsonBounds Real.sqrt (3 - 0) 3 2 =
        (1 - (wilsonBounds Real.sqrt 0 3 2).2, 1 - (wilsonBounds Real.sqrt 0 3 2).1) ∧
      ∀ more, 0 ≤ more → more ≤ 3 →
        (wilsonBounds Real.sqrt 0 3 2).1 ≤ (wilsonBounds Real.sqrt more 3 2).1 ∧
          (wilsonBounds Real.sqrt 0 3 2).2 ≤ (wilsonBounds Real.sqrt more 3 2).2 :=
  wilsonBounds_sound (by decide) (by decide) two_pos

end Real

end Sectum
