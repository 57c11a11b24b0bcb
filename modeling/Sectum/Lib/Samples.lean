import Mathlib.Algebra.BigOperators.Group.List.Basic
import Mathlib.Algebra.Order.BigOperators.Group.List
import Mathlib.Algebra.Order.Field.Basic
import Mathlib.Tactic.FieldSimp
import Mathlib.Tactic.Linarith
import Mathlib.Tactic.Ring

/-! The mean and the sample variance of a list of numbers: what a shift does to them, and their bounds
on numbers from an interval. -/

namespace Samples

variable {K : Type} [Field K] [LinearOrder K] [IsStrictOrderedRing K] {xs : List K}

/-- `statistics.fmean`. -/
def mean (xs : List K) : K := xs.sum / xs.length

/-- `statistics.variance`, of two numbers and more. -/
def variance (xs : List K) : K := (xs.map fun x => (x - mean xs) ^ 2).sum / (xs.length - 1)

omit [LinearOrder K] [IsStrictOrderedRing K] in
theorem sum_map_sub (xs : List K) (c : K) : (xs.map (· - c)).sum = xs.sum - xs.length * c := by
  induction xs with
  | nil => simp
  | cons x xs ih =>
    rw [List.map_cons, List.sum_cons, List.sum_cons, ih, List.length_cons]
    push_cast
    ring

theorem length_pos (h : xs ≠ []) : (0 : K) < xs.length := by
  exact_mod_cast List.length_pos_iff.mpr h

theorem mean_map_sub (h : xs ≠ []) (c : K) : mean (xs.map (· - c)) = mean xs - c := by
  have hpos := length_pos h
  rw [mean, mean, List.length_map, sum_map_sub, sub_div, mul_div_cancel_left₀ _ hpos.ne']

theorem variance_map_sub (h : xs ≠ []) (c : K) : variance (xs.map (· - c)) = variance xs := by
  unfold variance
  rw [List.length_map, List.map_map, mean_map_sub h]
  congr 2
  apply List.map_congr_left
  intro x _
  simp only [Function.comp_apply, sub_sub_sub_cancel_right]

/-- The mean of numbers from an interval is in the interval. -/
theorem mean_mem {low high : K} (h : xs ≠ []) (hall : ∀ x ∈ xs, low ≤ x ∧ x ≤ high) :
    low ≤ mean xs ∧ mean xs ≤ high := by
  have hpos := length_pos h
  have hlow := List.card_nsmul_le_sum xs low fun x hx => (hall x hx).1
  have hhigh := List.sum_le_card_nsmul xs high fun x hx => (hall x hx).2
  rw [nsmul_eq_mul] at hlow hhigh
  rw [mean, le_div_iff₀ hpos, div_le_iff₀ hpos, mul_comm low, mul_comm high]
  exact ⟨hlow, hhigh⟩

/-- The variance of numbers from an interval, in the length of the interval. -/
theorem variance_le {low high : K} (hlength : 1 < xs.length)
    (hall : ∀ x ∈ xs, low ≤ x ∧ x ≤ high) :
    variance xs ≤ xs.length * (high - low) ^ 2 / (xs.length - 1) := by
  have hne : xs ≠ [] := List.ne_nil_of_length_pos (by omega)
  obtain ⟨hmlow, hmhigh⟩ := mean_mem hne hall
  have hlength' : (1 : K) < xs.length := by exact_mod_cast hlength
  have hbound : ∀ y ∈ xs.map fun x => (x - mean xs) ^ 2, y ≤ (high - low) ^ 2 := by
    intro y hy
    obtain ⟨x, hx, rfl⟩ := List.mem_map.mp hy
    obtain ⟨hxlow, hxhigh⟩ := hall x hx
    apply sq_le_sq'
    · linarith
    · linarith
  have hsum := List.sum_le_card_nsmul _ _ hbound
  rw [nsmul_eq_mul, List.length_map] at hsum
  exact div_le_div_of_nonneg_right hsum (by linarith)

end Samples
