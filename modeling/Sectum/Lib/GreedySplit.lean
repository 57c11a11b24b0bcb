import Mathlib.Data.List.Chain

/-! Greedy splits: a list cut into runs, each of which is as long as `fits` lets it be. -/

namespace Py

variable {α : Type}

/-- The runs of what is left of a list, when the current run holds `run` already. -/
def greedyRuns (fits : List α → Prop) [DecidablePred fits] : List α → List α → List (List α)
  | run, [] => if run = [] then [] else [run]
  | run, x :: xs =>
    if run = [] ∨ fits (run ++ [x]) then greedyRuns fits (run ++ [x]) xs
    else run :: greedyRuns fits [x] xs

/-- `runs` cuts `xs` in order, without loss, into runs that fit or are of one element. -/
structure IsSplit (fits : List α → Prop) (xs : List α) (runs : List (List α)) : Prop where
  flatten : runs.flatten = xs
  nonempty : ∀ run ∈ runs, run ≠ []
  within : ∀ run ∈ runs, fits run ∨ run.length = 1

/-- No run could have taken the first element of the next. -/
structure GreedySplit (fits : List α → Prop) (xs : List α) (runs : List (List α)) : Prop
    extends IsSplit fits xs runs where
  greedy : runs.IsChain fun run next => ∀ x ∈ next.head?, ¬fits (run ++ [x])

section Runs

variable {fits : List α → Prop} [DecidablePred fits]

theorem greedyRuns_head {run : List α} (hrun : run ≠ []) (xs : List α) :
    ∃ tail rest, greedyRuns fits run xs = (run ++ tail) :: rest := by
  induction xs generalizing run with
  | nil => exact ⟨[], [], by simp [greedyRuns, hrun]⟩
  | cons x xs ih =>
    rw [greedyRuns]
    split
    · have hne : run ++ [x] ≠ [] := by simp
      obtain ⟨tail, rest, h⟩ := ih hne
      exact ⟨x :: tail, rest, by simp [h]⟩
    · exact ⟨[], greedyRuns fits [x] xs, by simp⟩

theorem greedyRuns_spec (run xs : List α) (hrun : fits run ∨ run.length ≤ 1) :
    GreedySplit fits (run ++ xs) (greedyRuns fits run xs) := by
  induction xs generalizing run with
  | nil =>
    rw [greedyRuns]
    split
    · rename_i hnil
      subst hnil
      exact ⟨⟨rfl, by simp, by simp⟩, .nil⟩
    · rename_i hne
      have hpos := List.length_pos_iff.mpr hne
      refine ⟨⟨by simp, by simpa using hne, ?_⟩, .singleton _⟩
      simp only [List.mem_singleton, forall_eq]
      exact hrun.imp_right fun h => by omega
  | cons x xs ih =>
    rw [greedyRuns]
    split
    · rename_i htaken
      have hrun' : fits (run ++ [x]) ∨ (run ++ [x]).length ≤ 1 := by
        rcases htaken with rfl | hfits
        · exact .inr (by simp)
        · exact .inl hfits
      simpa using ih (run ++ [x]) hrun'
    · rename_i hfull
      obtain ⟨hne, hover⟩ := not_or.mp hfull
      have hpos := List.length_pos_iff.mpr hne
      have hrest := ih [x] (.inr (by simp))
      have hone : [x] ≠ [] := by simp
      obtain ⟨tail, rest, hhead⟩ : ∃ tail rest, greedyRuns fits [x] xs = ([x] ++ tail) :: rest :=
        greedyRuns_head hone xs
      refine ⟨⟨?_, ?_, ?_⟩, ?_⟩
      · simp [hrest.flatten]
      · simpa using ⟨hne, hrest.nonempty⟩
      · simp only [List.mem_cons, forall_eq_or_imp]
        exact ⟨hrun.imp_right fun h => by omega, hrest.within⟩
      · have hchain := hrest.greedy
        rw [hhead] at hchain ⊢
        refine .cons_cons ?_ hchain
        simpa using hover

end Runs

section Fewest

variable {fits : List α → Prop} {xs : List α} {runs : List (List α)}

theorem IsSplit.tail {run : List α} (h : IsSplit fits xs (run :: runs)) :
    IsSplit fits runs.flatten runs :=
  ⟨rfl, fun r hr => h.nonempty r (List.mem_cons_of_mem _ hr),
    fun r hr => h.within r (List.mem_cons_of_mem _ hr)⟩

theorem GreedySplit.tail {run : List α} (h : GreedySplit fits xs (run :: runs)) :
    GreedySplit fits runs.flatten runs :=
  ⟨h.toIsSplit.tail, h.greedy.tail⟩

/-- The run behind the first one begins what is left, and the first could not have taken it. -/
theorem GreedySplit.next {run : List α} {x : α} {rest : List α}
    (h : GreedySplit fits xs (run :: runs)) (hrest : runs.flatten = x :: rest) :
    ¬fits (run ++ [x]) := by
  cases runs with
  | nil => simp at hrest
  | cons next runs =>
    have hne := h.nonempty next (by simp)
    obtain ⟨y, next', rfl⟩ := List.exists_cons_of_ne_nil hne
    have hx : y = x := by simpa using congrArg List.head? hrest
    subst hx
    exact (List.isChain_cons_cons.mp h.greedy).1 y (by simp)

/-- Where what fits fits in part as well, a greedy split stays ahead of every other one, so that no
split of the list has fewer runs. -/
theorem GreedySplit.length_le (hpart : ∀ before mid after : List α,
      fits (before ++ mid ++ after) → fits mid)
    {ys : List α} {others : List (List α)} (h : GreedySplit fits xs runs)
    (hothers : IsSplit fits ys others) (hsuffix : xs <:+ ys) : runs.length ≤ others.length := by
  induction others generalizing xs ys runs with
  | nil =>
    have hys : ys = [] := by simpa using hothers.flatten.symm
    have hxs : xs = [] := by simpa [hys] using hsuffix
    cases runs with
    | nil => simp
    | cons run runs =>
      have hflat := h.flatten
      rw [hxs, List.flatten_cons, List.append_eq_nil_iff] at hflat
      exact absurd hflat.1 (h.nonempty run (by simp))
  | cons other others ih =>
    cases runs with
    | nil => simp
    | cons run runs =>
      have hlen : runs.flatten <:+ others.flatten := by
        obtain ⟨before, hbefore⟩ := hsuffix
        have hsame : before ++ (run ++ runs.flatten) = other ++ others.flatten := by
          rw [← List.flatten_cons, h.flatten, hbefore, ← hothers.flatten, List.flatten_cons]
        rcases List.append_eq_append_iff.mp ((List.append_assoc _ _ _).trans hsame) with
          ⟨gap, hgap, hleft⟩ | ⟨gap, -, hleft⟩
        · -- the other split's first run reaches further, so it holds this run and the next element
          cases gap with
          | nil => exact hleft ▸ List.suffix_refl _
          | cons x gap =>
            have hover : ¬fits (run ++ [x]) := h.next hleft
            have hpos := List.length_pos_iff.mpr (h.nonempty run (by simp))
            have hother : other = before ++ (run ++ [x]) ++ gap := by simpa using hgap
            rcases hothers.within other (by simp) with hfits | hone
            · exact absurd (hpart before (run ++ [x]) gap (hother ▸ hfits)) hover
            · have := congrArg List.length hother
              simp only [List.length_append, List.length_singleton] at this
              omega
        · exact ⟨gap, hleft.symm⟩
      have := ih h.tail hothers.tail hlen
      simp only [List.length_cons]
      omega

end Fewest

end Py
