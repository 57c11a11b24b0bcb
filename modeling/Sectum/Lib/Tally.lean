import Mathlib.Algebra.BigOperators.Group.List.Basic
import Mathlib.Algebra.Order.BigOperators.Group.List
import Mathlib.Algebra.Order.Field.Rat
import Mathlib.Data.List.MinMax
import Mathlib.Tactic.FieldSimp
import Mathlib.Tactic.GCongr
import Mathlib.Tactic.Linarith
import Mathlib.Tactic.Positivity

/-! Weighted tallies over a list, the share that one tally has of two, and the worst of a list of
bands.  A tally grows with its predicate, and a share falls when its own part does not grow and the
other part does not shrink. -/

namespace Tally

variable {ι κ : Type*} {weight : ι → ℕ} {items : List ι} {P Q : ι → Prop}

/-- The total weight of the items that satisfy `P`. -/
def weightOf (weight : ι → ℕ) (items : List ι) (P : ι → Prop) [DecidablePred P] : ℕ :=
  ((items.filter P).map weight).sum

variable [DecidablePred P] [DecidablePred Q]

theorem weightOf_cons (item : ι) :
    weightOf weight (item :: items) P =
      (if P item then weight item else 0) + weightOf weight items P := by
  unfold weightOf
  by_cases h : P item <;> simp [h]

theorem weightOf_mono (h : ∀ item ∈ items, P item → Q item) :
    weightOf weight items P ≤ weightOf weight items Q := by
  induction items with
  | nil => exact Nat.le_refl _
  | cons item items ih =>
    have hrest := ih fun other hmem => h other (List.mem_cons_of_mem _ hmem)
    have hfirst := h item List.mem_cons_self
    rw [weightOf_cons, weightOf_cons]
    by_cases hp : P item
    · rw [if_pos hp, if_pos (hfirst hp)]
      omega
    · rw [if_neg hp]
      omega

theorem weightOf_or (h : ∀ item ∈ items, P item → ¬Q item) :
    weightOf weight items (fun item => P item ∨ Q item) =
      weightOf weight items P + weightOf weight items Q := by
  induction items with
  | nil => rfl
  | cons item items ih =>
    have hrest := ih fun other hmem => h other (List.mem_cons_of_mem _ hmem)
    have hfirst := h item List.mem_cons_self
    rw [weightOf_cons, weightOf_cons, weightOf_cons, hrest]
    by_cases hp : P item
    · rw [if_pos (Or.inl hp), if_pos hp, if_neg (hfirst hp)]
      omega
    · by_cases hq : Q item
      · rw [if_pos (Or.inr hq), if_neg hp, if_pos hq]
        omega
      · rw [if_neg (by tauto), if_neg hp, if_neg hq]
        omega

theorem weight_le_weightOf (weight : ι → ℕ) {item : ι} (hmem : item ∈ items) (h : P item) :
    weight item ≤ weightOf weight items P :=
  List.single_le_sum (fun _ _ => Nat.zero_le _) _
    (List.mem_map_of_mem (List.mem_filter.mpr ⟨hmem, decide_eq_true h⟩))

theorem weightOf_eq_zero (h : ∀ item ∈ items, ¬P item) : weightOf weight items P = 0 := by
  unfold weightOf
  rw [List.filter_eq_nil_iff.mpr fun item hmem => by simpa using h item hmem]
  rfl

/-- Two lists that correspond item by item have the same tally. -/
theorem weightOf_eq_of_forall₂ {others : List κ} {weight' : κ → ℕ} {P' : κ → Prop}
    [DecidablePred P'] {R : ι → κ → Prop} (h : List.Forall₂ R items others)
    (hR : ∀ item ∈ items, ∀ other, R item other →
      weight item = weight' other ∧ (P item ↔ P' other)) :
    weightOf weight items P = weightOf weight' others P' := by
  induction h with
  | nil => rfl
  | @cons item other items others hfirst _ ih =>
    have hrest := ih fun x hx => hR x (List.mem_cons_of_mem _ hx)
    obtain ⟨hweight, hiff⟩ := hR item List.mem_cons_self other hfirst
    rw [weightOf_cons, weightOf_cons, hrest, hweight]
    by_cases hp : P item
    · rw [if_pos hp, if_pos (hiff.mp hp)]
    · rw [if_neg hp, if_neg (mt hiff.mpr hp)]

/-- Three tests, of which each item passes exactly one, count the items between them. -/
theorem length_eq_countP {p q r : ι → Bool}
    (h : ∀ item ∈ items, (p item).toNat + (q item).toNat + (r item).toNat = 1) :
    items.length = items.countP p + items.countP q + items.countP r := by
  induction items with
  | nil => rfl
  | cons item items ih =>
    have hrest := ih fun other hmem => h other (List.mem_cons_of_mem _ hmem)
    have hfirst := h item List.mem_cons_self
    have hcount : ∀ b : Bool, (if b = true then 1 else 0) = b.toNat := by decide
    rw [List.length_cons, List.countP_cons, List.countP_cons, List.countP_cons, hcount, hcount,
      hcount]
    omega

theorem share_le_share {part rest part' rest' : ℕ} (hpart : part' ≤ part) (hrest : rest ≤ rest')
    (hpos : 0 < part + rest) (hpos' : 0 < part' + rest') :
    (part' : ℚ) / ((part' + rest' : ℕ) : ℚ) ≤ (part : ℚ) / ((part + rest : ℕ) : ℚ) := by
  have hcross : part' * (part + rest) ≤ part * (part' + rest') := by
    calc part' * (part + rest) = part' * part + part' * rest := Nat.mul_add _ _ _
      _ ≤ part * part' + part * rest' :=
        Nat.add_le_add (Nat.mul_comm _ _).le (Nat.mul_le_mul hpart hrest)
      _ = part * (part' + rest') := (Nat.mul_add _ _ _).symm
  rw [div_le_div_iff₀ (by exact_mod_cast hpos') (by exact_mod_cast hpos)]
  exact_mod_cast hcross

theorem half_le_share {part rest : ℕ} (hpos : 0 < part + rest) :
    (1 / 2 : ℚ) ≤ (part : ℚ) / ((part + rest : ℕ) : ℚ) ↔ rest ≤ part := by
  rw [div_le_div_iff₀ (by norm_num) (by exact_mod_cast hpos), one_mul]
  constructor
  · intro h
    have : part + rest ≤ part * 2 := by exact_mod_cast h
    omega
  · intro h
    have : part + rest ≤ part * 2 := by omega
    exact_mod_cast this

section Worst

variable {β : Type*} [LinearOrder β]

theorem max?_congr {bands bands' : List β} (h : ∀ band, band ∈ bands ↔ band ∈ bands') :
    bands.max? = bands'.max? := by
  cases hmax : bands.max? with
  | none =>
    rw [List.max?_eq_none_iff] at hmax
    subst hmax
    have hempty : bands' = [] :=
      List.eq_nil_iff_forall_not_mem.mpr fun band hband => List.not_mem_nil ((h band).mpr hband)
    rw [hempty]
    rfl
  | some worst =>
    obtain ⟨hmem, hub⟩ := List.max?_eq_some_iff.mp hmax
    symm
    exact List.max?_eq_some_iff.mpr
      ⟨(h worst).mp hmem, fun band hband => hub band ((h band).mpr hband)⟩

end Worst

end Tally
