import Sectum.Lib.Sha256

/-! `random.Random` as a source of draws, and the loops that draw from it. -/

namespace Py

/-- The generators of `random`, about which nothing is assumed but that an index is one. -/
class RandomSource (ρ : Type) where
  /-- `random.Random(seed)`. -/
  seeded : Nat → ρ
  randbytes : Nat → StateM ρ Bytes
  /-- The index that `choice` draws. -/
  index : (n : Nat) → 0 < n → StateM ρ (Fin n)
  /-- The indices that `choices` draws. -/
  indices : (n : Nat) → 0 < n → (count : Nat) → StateM ρ (Fin count → Fin n)
  randint : Nat → Nat → StateM ρ Nat

/-- A source that only draws zeros. -/
@[reducible] def RandomSource.zeros : RandomSource Unit where
  seeded _ := ()
  randbytes count := pure (List.replicate count 0)
  index _ h := pure ⟨0, h⟩
  indices _ h _ := pure fun _ => ⟨0, h⟩
  randint low _ := pure low

section Draws

variable {ρ α β : Type}

def choice [RandomSource ρ] (items : List α) (h : 0 < items.length) : StateM ρ α := do
  let index ← RandomSource.index items.length h
  return items.get index

def choices [RandomSource ρ] (items : List α) (h : 0 < items.length) (count : Nat) :
    StateM ρ (List α) := do
  let indices ← RandomSource.indices items.length h count
  return (List.finRange count).map fun k => items.get (indices k)

theorem choices_subset [RandomSource ρ] (items : List α) (h : 0 < items.length) (count : Nat)
    (rng : ρ) : ((choices items h count).run rng).1 ⊆ items := by
  intro a ha
  obtain ⟨k, -, rfl⟩ := List.mem_map.mp ha
  exact List.get_mem items _

/-- What holds of each round of a loop that draws, whatever is drawn, holds of the loop. -/
theorem forall₂_mapM {f : α → StateM ρ β} {R : α → β → Prop} (items : List α)
    (h : ∀ a ∈ items, ∀ rng, R a ((f a).run rng).1) (rng : ρ) :
    List.Forall₂ R items ((items.mapM f).run rng).1 := by
  induction items generalizing rng with
  | nil => exact List.Forall₂.nil
  | cons a items ih =>
    rw [List.mapM_cons]
    exact List.Forall₂.cons (h a List.mem_cons_self rng)
      (ih (fun b hb => h b (List.mem_cons_of_mem a hb)) _)

/-- The invariant of a loop that draws and carries a state. -/
theorem foldlM_induct {f : β → α → StateM ρ β} {P : List α → β → Prop} {start : β}
    (hstart : P [] start)
    (hstep : ∀ before a state rng, P before state → P (before ++ [a]) ((f state a).run rng).1)
    (items : List α) (rng : ρ) : P items ((items.foldlM f start).run rng).1 := by
  have hrun : ∀ (rest before : List α) (state : β) (rng : ρ), P before state →
      P (before ++ rest) ((rest.foldlM f state).run rng).1 := by
    intro rest
    induction rest with
    | nil =>
      intro before state rng h
      rw [List.append_nil]
      exact h
    | cons a rest ih =>
      intro before state rng h
      rw [List.append_cons, List.foldlM_cons]
      exact ih (before ++ [a]) _ _ (hstep before a state rng h)
  exact hrun items [] start rng hstart

end Draws

end Py
