import Mathlib.Data.List.Infix
import Mathlib.Data.List.NodupEquivFin

/-! Occurrences of a list in order and close together inside another: a window of the haystack at
most `slack` longer than the needle has the needle as a sublist. -/

namespace List

variable {α : Type*}

/-- `needle` occurs in order in a window of `hay` that is at most `slack` longer than it. -/
def OccursWithin (slack : Nat) (hay needle : List α) : Prop :=
  needle ≠ [] ∧ ∃ before window after, hay = before ++ window ++ after ∧
    window.length ≤ needle.length + slack ∧ needle <+ window

variable {slack slack' : Nat} {hay needle : List α}

theorem OccursWithin.subset (h : OccursWithin slack hay needle) : needle ⊆ hay := by
  obtain ⟨-, before, window, after, rfl, -, hsub⟩ := h
  intro x hx
  exact mem_append_left _ (mem_append_right _ (hsub.subset hx))

theorem OccursWithin.append (h : OccursWithin slack hay needle) (left right : List α) :
    OccursWithin slack (left ++ hay ++ right) needle := by
  obtain ⟨hne, before, window, after, rfl, hlen, hsub⟩ := h
  exact ⟨hne, left ++ before, window, after ++ right, by simp [append_assoc], hlen, hsub⟩

theorem cons_sublist_split {x : α} {xs ys : List α} (h : x :: xs <+ ys) :
    ∃ before after, ys = before ++ x :: after ∧ xs <+ after := by
  induction ys with
  | nil => cases h
  | cons y ys ih =>
    cases h with
    | cons _ h =>
      obtain ⟨before, after, rfl, hsub⟩ := ih h
      exact ⟨y :: before, after, rfl, hsub⟩
    | cons_cons _ h => exact ⟨[], ys, rfl, h⟩

/-- An occurrence starts at some position that holds the needle's first entry, and the rest of the
needle is a sublist of what follows, up to the window's end. -/
theorem occursWithin_cons_iff {x : α} {xs : List α} :
    OccursWithin slack hay (x :: xs) ↔
      ∃ before after, hay = before ++ x :: after ∧ xs <+ after.take (xs.length + slack) := by
  constructor
  · rintro ⟨-, before, window, after, rfl, hlen, hsub⟩
    obtain ⟨skipped, rest, rfl, hrest⟩ := cons_sublist_split hsub
    refine ⟨before ++ skipped, rest ++ after, by simp [append_assoc], ?_⟩
    have hroom : rest.length ≤ xs.length + slack := by
      simp only [length_append, length_cons] at hlen
      omega
    rw [take_append, take_of_length_le hroom]
    exact hrest.trans (sublist_append_left _ _)
  · rintro ⟨before, after, rfl, hsub⟩
    refine ⟨cons_ne_nil _ _, before, x :: after.take (xs.length + slack),
      after.drop (xs.length + slack), by simp, ?_, hsub.cons_cons x⟩
    simp only [length_cons, length_take]
    omega

/-- Without slack, an occurrence is a contiguous run. -/
theorem occursWithin_zero : OccursWithin 0 hay needle ↔ needle ≠ [] ∧ needle <:+: hay := by
  constructor
  · rintro ⟨hne, before, window, after, rfl, hlen, hsub⟩
    obtain rfl := hsub.eq_of_length_le hlen
    exact ⟨hne, before, after, rfl⟩
  · rintro ⟨hne, before, after, rfl⟩
    exact ⟨hne, before, needle, after, rfl, le_rfl, Sublist.refl _⟩

/-- An occurrence has its entries at increasing positions, the last of them near the first. -/
theorem occursWithin_iff_positions (hne : 0 < needle.length) :
    OccursWithin slack hay needle ↔ ∃ positions : Fin needle.length → Nat, StrictMono positions ∧
      (∀ i, hay[positions i]? = some (needle.get i)) ∧
      positions ⟨needle.length - 1, by omega⟩ - positions ⟨0, hne⟩ + 1 ≤ needle.length + slack := by
  constructor
  · rintro ⟨-, before, window, after, rfl, hlen, hsub⟩
    obtain ⟨f, hf⟩ := sublist_iff_exists_fin_orderEmbedding_get_eq.mp hsub
    refine ⟨fun i => before.length + f i, ?_, ?_, ?_⟩
    · intro i j hij
      have hlt : f i < f j := f.lt_iff_lt.mpr hij
      show before.length + (f i).val < before.length + (f j).val
      omega
    · intro i
      show (before ++ window ++ after)[before.length + (f i).val]? = some (needle.get i)
      rw [append_assoc, getElem?_append_right (by omega), Nat.add_sub_cancel_left,
        getElem?_append_left (f i).isLt, hf i]
      exact getElem?_eq_getElem (f i).isLt
    · have hlast := (f ⟨needle.length - 1, by omega⟩).isLt
      show before.length + (f ⟨needle.length - 1, by omega⟩).val -
        (before.length + (f ⟨0, hne⟩).val) + 1 ≤ needle.length + slack
      omega
  · rintro ⟨positions, hmono, hget, hspan⟩
    let first := positions ⟨0, hne⟩
    let size := positions ⟨needle.length - 1, by omega⟩ - first + 1
    have hfirst : ∀ i, first ≤ positions i := fun i =>
      hmono.monotone (show (⟨0, hne⟩ : Fin needle.length) ≤ i from Nat.zero_le _)
    have hlast : ∀ i, positions i < first + size := by
      intro i
      have hle : positions i ≤ positions ⟨needle.length - 1, by omega⟩ :=
        hmono.monotone (show i.val ≤ needle.length - 1 by omega)
      have := hfirst ⟨needle.length - 1, by omega⟩
      omega
    have hwindow : ∀ i,
        ((hay.drop first).take size)[positions i - first]? = some (needle.get i) := by
      intro i
      have hlow := hfirst i
      have hhigh := hlast i
      rw [getElem?_take_of_lt (by omega), getElem?_drop, ← hget i]
      congr 1
      omega
    have hbound : ∀ i, positions i - first < ((hay.drop first).take size).length := fun i =>
      (getElem?_eq_some_iff.mp (hwindow i)).1
    refine ⟨ne_nil_of_length_pos hne, hay.take first, (hay.drop first).take size,
      (hay.drop first).drop size, by simp, ?_, ?_⟩
    · rw [length_take]
      omega
    · refine sublist_iff_exists_fin_orderEmbedding_get_eq.mpr
        ⟨OrderEmbedding.ofStrictMono (fun i => ⟨positions i - first, hbound i⟩) ?_, ?_⟩
      · intro i j hij
        have hlow := hfirst i
        have hlt := hmono hij
        show positions i - first < positions j - first
        omega
      · intro i
        obtain ⟨_, hvalue⟩ := getElem?_eq_some_iff.mp (hwindow i)
        exact hvalue.symm

end List
