import Mathlib.Data.List.Nodup

/-! A sweep over a list that threads a state, and keeps what the steps give. -/

namespace Py

variable {α β κ σ : Type}

def sweep (step : α → σ → Option β × σ) : List α → σ → List β × σ
  | [], s => ([], s)
  | x :: xs, s =>
    let (result, s) := step x s
    let (rest, s) := sweep step xs s
    (result.toList ++ rest, s)

/-- The sweep of a list from `s` comes to `x` in state `s'`. -/
inductive Visits (step : α → σ → Option β × σ) : List α → σ → α → σ → Prop
  | here (x : α) (xs : List α) (s : σ) : Visits step (x :: xs) s x s
  | there {x y : α} {xs : List α} {s s' : σ} (h : Visits step xs (step y s).2 x s') :
      Visits step (y :: xs) s x s'

variable {step : α → σ → Option β × σ}

theorem Visits.mem {xs : List α} {s s' : σ} {x : α} (h : Visits step xs s x s') : x ∈ xs := by
  induction h with
  | here x xs s => exact List.mem_cons_self
  | there h ih => exact List.mem_cons_of_mem _ ih

theorem exists_visits {xs : List α} {x : α} (hx : x ∈ xs) (s : σ) :
    ∃ s', Visits step xs s x s' := by
  induction xs generalizing s with
  | nil => cases hx
  | cons y xs ih =>
    rcases List.mem_cons.mp hx with rfl | hx
    · exact ⟨s, .here x xs s⟩
    · obtain ⟨s', h⟩ := ih hx (step y s).2
      exact ⟨s', .there h⟩

theorem Visits.unique {key : α → κ} {xs : List α} (hnodup : (xs.map key).Nodup) {s s₁ s₂ : σ}
    {x y : α} (hx : Visits step xs s x s₁) (hy : Visits step xs s y s₂) (hkey : key x = key y) :
    x = y ∧ s₁ = s₂ := by
  induction hx with
  | here x xs s =>
    cases hy with
    | here => exact ⟨rfl, rfl⟩
    | there hy =>
      rw [List.map_cons, List.nodup_cons, hkey] at hnodup
      exact absurd (List.mem_map_of_mem hy.mem) hnodup.1
  | there hx ih =>
    cases hy with
    | here =>
      rw [List.map_cons, List.nodup_cons, ← hkey] at hnodup
      exact absurd (List.mem_map_of_mem hx.mem) hnodup.1
    | there hy => exact ih (List.nodup_cons.mp hnodup).2 hy hkey

/-- What a sweep keeps is what the steps give where it comes to them. -/
theorem mem_sweep {xs : List α} {s : σ} {b : β} :
    b ∈ (sweep step xs s).1 ↔ ∃ x s', Visits step xs s x s' ∧ (step x s').1 = some b := by
  induction xs generalizing s with
  | nil =>
    constructor
    · intro h
      cases h
    · rintro ⟨x, s', h, -⟩
      cases h
  | cons y xs ih =>
    show b ∈ (step y s).1.toList ++ (sweep step xs (step y s).2).1 ↔ _
    rw [List.mem_append, Option.mem_toList, ih]
    constructor
    · rintro (h | ⟨x, s', h, hb⟩)
      · exact ⟨y, s, .here y xs s, h⟩
      · exact ⟨x, s', .there h, hb⟩
    · rintro ⟨x, s', h, hb⟩
      cases h with
      | here => exact Or.inl hb
      | there h => exact Or.inr ⟨x, s', h, hb⟩

theorem sweep_keys {key : α → κ} {key' : β → κ}
    (hkey : ∀ x s b, (step x s).1 = some b → key' b = key x) (xs : List α) (s : σ) :
    ((sweep step xs s).1.map key').Sublist (xs.map key) := by
  induction xs generalizing s with
  | nil => exact List.Sublist.refl _
  | cons x xs ih =>
    show (((step x s).1.toList ++ (sweep step xs (step x s).2).1).map key').Sublist _
    rw [List.map_append, List.map_cons]
    cases hx : (step x s).1 with
    | none => exact (ih _).cons _
    | some b =>
      rw [Option.toList_some, List.map_singleton, hkey x s b hx]
      exact (ih _).cons_cons _

theorem map_option_sublist {key : β → κ} {f : α → β} {k : κ} (h : ∀ a, key (f a) = k)
    (x : Option α) : ((x.map f).toList.map key).Sublist [k] := by
  cases x with
  | none => exact List.nil_sublist _
  | some a => simp [h]

theorem flatMap_option_sublist {γ : Type} {key : β → κ} {key' : γ → κ} {row : β → Option γ}
    {rows : List β} (h : ∀ b ∈ rows, ∀ c ∈ row b, key' c = key b) :
    ((rows.flatMap fun b => (row b).toList).map key').Sublist (rows.map key) := by
  induction rows with
  | nil => exact List.Sublist.refl _
  | cons b rows ih =>
    have ih' := ih fun b hb => h b (List.mem_cons_of_mem _ hb)
    rw [List.flatMap_cons, List.map_append, List.map_cons]
    cases hrow : row b with
    | none => exact ih'.cons _
    | some c =>
      rw [Option.toList_some, List.map_singleton, h b List.mem_cons_self c hrow]
      exact ih'.cons_cons _

/-- Where each row keeps its items under its own key, the items of a key are those of its row. -/
theorem filter_flatMap_row [DecidableEq κ] {γ : Type} {key : β → κ} {items : β → List γ}
    {tag : γ → κ} {rows : List β} (htag : ∀ b ∈ rows, ∀ c ∈ items b, tag c = key b)
    (hnodup : (rows.map key).Nodup) {b : β} (hb : b ∈ rows) :
    (rows.flatMap items).filter (fun c => tag c = key b) = items b := by
  induction rows with
  | nil => cases hb
  | cons first rest ih =>
    rw [List.map_cons, List.nodup_cons] at hnodup
    have htag' : ∀ b ∈ rest, ∀ c ∈ items b, tag c = key b := fun b hb =>
      htag b (List.mem_cons_of_mem _ hb)
    have hfirst : ∀ c ∈ items first, tag c = key first := htag first List.mem_cons_self
    rw [List.flatMap_cons, List.filter_append]
    rcases List.mem_cons.mp hb with rfl | hb
    · have hrest : (rest.flatMap items).filter (fun c => tag c = key b) = [] := by
        rw [List.filter_eq_nil_iff]
        intro c hc
        obtain ⟨other, hother, hc⟩ := List.mem_flatMap.mp hc
        have hne : key other ≠ key b := fun h => hnodup.1 (h ▸ List.mem_map_of_mem hother)
        simpa [htag' other hother c hc] using hne
      rw [hrest, List.append_nil]
      exact List.filter_eq_self.mpr fun c hc => by simp [hfirst c hc]
    · have hnone : (items first).filter (fun c => tag c = key b) = [] := by
        rw [List.filter_eq_nil_iff]
        intro c hc
        have hne : key first ≠ key b := fun h => hnodup.1 (h ▸ List.mem_map_of_mem hb)
        simpa [hfirst c hc] using hne
      rw [hnone, List.nil_append]
      exact ih htag' hnodup.2 hb

theorem filter_flatMap_no_row [DecidableEq κ] {γ : Type} {key : β → κ} {items : β → List γ}
    {tag : γ → κ} {rows : List β} (htag : ∀ b ∈ rows, ∀ c ∈ items b, tag c = key b) {k : κ}
    (hk : ∀ b ∈ rows, key b ≠ k) : (rows.flatMap items).filter (fun c => tag c = k) = [] := by
  rw [List.filter_eq_nil_iff]
  intro c hc
  obtain ⟨b, hb, hc⟩ := List.mem_flatMap.mp hc
  simpa [htag b hb c hc] using hk b hb

end Py
