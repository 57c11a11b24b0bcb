import Mathlib.Data.List.Basic
import Mathlib.Logic.Function.Basic

/-! Systems that several parties act on, and what some of them observe of a run.

A group of parties is separated from the others by a view of the state that the others leave alone,
and that decides what the group is answered and what the view is afterwards. -/

namespace Parties

variable {σ δ α ο ν : Type*}

/-- A party acts on a state, and is answered. -/
structure System (σ δ α ο : Type*) where
  step : δ → α → σ → ο × σ

namespace System

variable (sys : System σ δ α ο)

/-- The actions of a run, each with its answer, and the last state. -/
def run : List (δ × α) → σ → List ((δ × α) × ο) × σ
  | [], s => ([], s)
  | act :: acts, s =>
    let next := sys.step act.1 act.2 s
    let rest := run acts next.2
    ((act, next.1) :: rest.1, rest.2)

/-- What a group observes of a run. -/
def observed (mine : δ → Bool) (acts : List (δ × α)) (s : σ) : List ((δ × α) × ο) :=
  (sys.run acts s).1.filter fun entry => mine entry.1.1

end System

section Separation

/-- A view of the state that separates a group from the other parties. -/
structure Separates (sys : System σ δ α ο) (mine : δ → Bool) (view : σ → ν) : Prop where
  answer {d : δ} {s s' : σ} : mine d = true → view s = view s' →
    ∀ a, (sys.step d a s).1 = (sys.step d a s').1
  keeps {d : δ} {s s' : σ} : mine d = true → view s = view s' →
    ∀ a, view (sys.step d a s).2 = view (sys.step d a s').2
  ignores {d : δ} : mine d = false → ∀ a s, view (sys.step d a s).2 = view s

variable {sys : System σ δ α ο} {mine : δ → Bool} {view : σ → ν}

/-- A separated group observes of a run what it observes of its own part of it. -/
theorem Separates.observed_filter (h : Separates sys mine view) {s s' : σ} (hview : view s = view s')
    (acts : List (δ × α)) :
    sys.observed mine acts s = sys.observed mine (acts.filter fun act => mine act.1) s' := by
  induction acts generalizing s s' with
  | nil => rfl
  | cons act acts ih =>
    unfold System.observed at ih ⊢
    cases hmine : mine act.1 with
    | true =>
      rw [List.filter_cons_of_pos (by simpa using hmine)]
      simp only [System.run, List.filter_cons, hmine, if_true]
      rw [h.answer hmine hview act.2, ih (h.keeps hmine hview act.2)]
    | false =>
      rw [List.filter_cons_of_neg (by simp [hmine])]
      simp only [System.run, List.filter_cons, hmine, Bool.false_eq_true, if_false]
      exact ih ((h.ignores hmine act.2 s).trans hview)

end Separation

section Family

variable {ι : Type*} [DecidableEq ι] {state action answer seen : ι → Type*}

/-- The components of a family side by side: an action is on one of them. -/
def System.family (sys : ∀ i, System (state i) δ (action i) (answer i)) :
    System (∀ i, state i) δ (Σ i, action i) (Σ i, answer i) where
  step d a s :=
    let next := (sys a.1).step d a.2 (s a.1)
    (⟨a.1, next.1⟩, Function.update s a.1 next.2)

/-- Where every component separates the group, so does the family. -/
theorem Separates.family {sys : ∀ i, System (state i) δ (action i) (answer i)} {mine : δ → Bool}
    {view : ∀ i, state i → seen i} (h : ∀ i, Separates (sys i) mine (view i)) :
    Separates (System.family sys) mine (fun s i => view i (s i)) where
  answer {d s s'} hmine hview a := by
    have hi := congrFun hview a.1
    change Sigma.mk a.1 _ = Sigma.mk a.1 _
    rw [(h a.1).answer hmine hi a.2]
  keeps {d s s'} hmine hview a := by
    funext i
    have hi := congrFun hview a.1
    change view i (Function.update s a.1 _ i) = view i (Function.update s' a.1 _ i)
    by_cases heq : i = a.1
    · subst heq
      rw [Function.update_self, Function.update_self]
      exact (h a.1).keeps hmine hi a.2
    · rw [Function.update_of_ne heq, Function.update_of_ne heq]
      exact congrFun hview i
  ignores {d} hmine a s := by
    funext i
    change view i (Function.update s a.1 _ i) = view i (s i)
    by_cases heq : i = a.1
    · subst heq
      rw [Function.update_self]
      exact (h a.1).ignores hmine a.2 (s a.1)
    · rw [Function.update_of_ne heq]

end Family

end Parties
