import Mathlib.Data.List.Count
import Mathlib.Logic.Function.Iterate

/-! Tasks that share a state and take their steps in any order.  Where a view of the state keeps each
task apart from the others, a task stands after any schedule where it stands after as many steps of
its own. -/

namespace Tasks

variable {ι κ σ ρ : Type*} [DecidableEq ι] {ν : ι → Type*}

/-- What one step of a task does, from where the task stands. -/
structure Pool (ι κ σ : Type*) where
  step : ι → κ → σ → κ × σ

namespace Pool

variable (pool : Pool ι κ σ)

/-- Where the tasks stand, and the state, after the steps of a schedule. -/
def after (schedule : List ι) (s : (ι → κ) × σ) : (ι → κ) × σ :=
  schedule.foldl (fun s i =>
    let next := pool.step i (s.1 i) s.2
    (Function.update s.1 i next.1, next.2)) s

variable {pool} in
/-- What each step keeps of where a task stands holds after every schedule. -/
theorem after_forall {inv : ι → κ → Prop}
    (hstep : ∀ i k s, inv i k → inv i (pool.step i k s).1) (schedule : List ι) {s : (ι → κ) × σ}
    (h : ∀ i, inv i (s.1 i)) : ∀ i, inv i ((pool.after schedule s).1 i) := by
  induction schedule generalizing s with
  | nil => exact h
  | cons j schedule ih =>
    let next := pool.step j (s.1 j) s.2
    apply @ih (Function.update s.1 j next.1, next.2)
    intro i
    simp only
    by_cases heq : i = j
    · subst heq
      rw [Function.update_self]
      exact hstep i _ _ (h i)
    · rw [Function.update_of_ne heq]
      exact h i

/-- One step of a task that no other task shares the state with. -/
def alone (i : ι) (p : κ × σ) : κ × σ := pool.step i p.1 p.2

theorem after_append (schedule later : List ι) (s : (ι → κ) × σ) :
    pool.after (schedule ++ later) s = pool.after later (pool.after schedule s) :=
  List.foldl_append

/-- Where only one task takes steps, it is as if it were alone. -/
theorem after_replicate (i : ι) (n : ℕ) (s : (ι → κ) × σ) :
    pool.after (List.replicate n i) s =
      (Function.update s.1 i ((pool.alone i)^[n] (s.1 i, s.2)).1,
        ((pool.alone i)^[n] (s.1 i, s.2)).2) := by
  induction n generalizing s with
  | zero =>
    rw [Function.iterate_zero, id, Function.update_eq_self]
    rfl
  | succ n ih =>
    let next := pool.step i (s.1 i) s.2
    change pool.after (List.replicate n i) (Function.update s.1 i next.1, next.2) = _
    rw [ih, Function.iterate_succ_apply]
    simp only [Function.update_self, Function.update_idem]
    rfl

end Pool

/-- Tasks that stand where they may, each with a view of the state that its own steps only depend on
and that the steps of the others leave as it is. -/
structure Apart (pool : Pool ι κ σ) (stands : ι → κ → Prop) (view : ∀ i, σ → ν i) : Prop where
  stays {i : ι} {k : κ} (s : σ) : stands i k → stands i (pool.step i k s).1
  answer {i : ι} {k : κ} {s s' : σ} : stands i k → view i s = view i s' →
    (pool.step i k s).1 = (pool.step i k s').1
  keeps {i : ι} {k : κ} {s s' : σ} : stands i k → view i s = view i s' →
    view i (pool.step i k s).2 = view i (pool.step i k s').2
  ignores {i j : ι} {k : κ} (s : σ) : i ≠ j → stands j k →
    view i (pool.step j k s).2 = view i s

namespace Apart

variable {pool : Pool ι κ σ} {stands : ι → κ → Prop} {view : ∀ i, σ → ν i}
  (h : Apart pool stands view)

include h

omit [DecidableEq ι] in
/-- What a task does alone depends on its view only. -/
theorem alone_congr {i : ι} {k : κ} {s s' : σ} (hstands : stands i k) (hview : view i s = view i s')
    (n : ℕ) :
    ((pool.alone i)^[n] (k, s)).1 = ((pool.alone i)^[n] (k, s')).1 ∧
      view i ((pool.alone i)^[n] (k, s)).2 = view i ((pool.alone i)^[n] (k, s')).2 := by
  induction n generalizing k s s' with
  | zero => exact ⟨rfl, hview⟩
  | succ n ih =>
    have hstays := h.stays s hstands
    have hanswer := h.answer hstands hview
    have hkeeps := h.keeps hstands hview
    rw [Function.iterate_succ_apply, Function.iterate_succ_apply]
    change ((pool.alone i)^[n] (pool.step i k s)).1 = ((pool.alone i)^[n] (pool.step i k s')).1 ∧
      view i ((pool.alone i)^[n] (pool.step i k s)).2 =
        view i ((pool.alone i)^[n] (pool.step i k s')).2
    generalize pool.step i k s = next at hstays hanswer hkeeps ⊢
    generalize pool.step i k s' = next' at hanswer hkeeps ⊢
    obtain ⟨k₁, s₁⟩ := next
    obtain ⟨k₂, s₂⟩ := next'
    obtain rfl : k₁ = k₂ := hanswer
    exact ih hstays hkeeps

/-- After a schedule a task stands, and sees the state, as after so many steps alone. -/
theorem after_eq (schedule : List ι) {s : (ι → κ) × σ} (hstands : ∀ i, stands i (s.1 i)) (i : ι) :
    (pool.after schedule s).1 i = ((pool.alone i)^[schedule.count i] (s.1 i, s.2)).1 ∧
      view i (pool.after schedule s).2 =
        view i ((pool.alone i)^[schedule.count i] (s.1 i, s.2)).2 := by
  induction schedule generalizing s with
  | nil => exact ⟨rfl, rfl⟩
  | cons j schedule ih =>
    let next := pool.step j (s.1 j) s.2
    have hnext : ∀ i, stands i (Function.update s.1 j next.1 i) := by
      intro i
      by_cases heq : i = j
      · subst heq
        rw [Function.update_self]
        exact h.stays s.2 (hstands i)
      · rw [Function.update_of_ne heq]
        exact hstands i
    obtain ⟨hlocal, hview⟩ := @ih (Function.update s.1 j next.1, next.2) hnext
    change (pool.after schedule (Function.update s.1 j next.1, next.2)).1 i = _ ∧
      view i (pool.after schedule (Function.update s.1 j next.1, next.2)).2 = _
    rw [hlocal, hview]
    simp only
    by_cases heq : i = j
    · subst heq
      rw [List.count_cons_self, Function.iterate_succ_apply, Function.update_self]
      exact ⟨rfl, rfl⟩
    · rw [List.count_cons_of_ne (Ne.symm heq), Function.update_of_ne heq]
      exact h.alone_congr (hstands i) (h.ignores s.2 heq (hstands j)) _

end Apart

section Finished

variable {pool : Pool ι κ σ} {done : κ → Option ρ}

/-- A task that is done takes no more steps. -/
def Rests (pool : Pool ι κ σ) (done : κ → Option ρ) : Prop :=
  ∀ i k s, (done k).isSome → pool.step i k s = (k, s)

omit [DecidableEq ι] in
theorem Rests.alone_eq (hrests : Rests pool done) {i : ι} {p : κ × σ} {m n : ℕ}
    (hdone : (done ((pool.alone i)^[m] p).1).isSome) (hle : m ≤ n) :
    (pool.alone i)^[n] p = (pool.alone i)^[m] p := by
  obtain ⟨k, rfl⟩ := Nat.exists_eq_add_of_le' hle
  rw [Function.iterate_add_apply]
  apply Function.iterate_fixed
  exact hrests i _ _ hdone

variable {stands : ι → κ → Prop} {view : ∀ i, σ → ν i}

/-- A task that is done after a number of steps alone is done after every schedule that gives it so
many, and wherever it is done after a schedule it has come to the same. -/
theorem Apart.outcome (h : Apart pool stands view) (hrests : Rests pool done) {s : (ι → κ) × σ}
    (hstands : ∀ i, stands i (s.1 i)) {i : ι} {n : ℕ}
    (halone : (done ((pool.alone i)^[n] (s.1 i, s.2)).1).isSome) (schedule : List ι) :
    (n ≤ schedule.count i → (done ((pool.after schedule s).1 i)).isSome) ∧
      ((done ((pool.after schedule s).1 i)).isSome →
        (pool.after schedule s).1 i = ((pool.alone i)^[n] (s.1 i, s.2)).1 ∧
          view i (pool.after schedule s).2 = view i ((pool.alone i)^[n] (s.1 i, s.2)).2) := by
  obtain ⟨hlocal, hview⟩ := h.after_eq schedule hstands i
  rw [hlocal, hview]
  constructor
  · intro hle
    rw [hrests.alone_eq halone hle]
    exact halone
  · intro hdone
    rcases Nat.le_total n (schedule.count i) with hle | hle
    · rw [hrests.alone_eq halone hle]
      exact ⟨rfl, rfl⟩
    · rw [hrests.alone_eq hdone hle]
      exact ⟨rfl, rfl⟩

end Finished

end Tasks
