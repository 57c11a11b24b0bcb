import Mathlib.Data.List.TakeWhile
import Sectum.Lib.PyText

/-! The maximal runs that `re.findall` gives for a character class: in the order of the text, they
hold the characters of the class, and each is delimited by characters outside it. -/

namespace Py

theorem flatten_splitOnP {α : Type} (p : α → Bool) (xs : List α) :
    (xs.splitOnP fun x => !p x).flatten = xs.filter p := by
  induction xs with
  | nil => rfl
  | cons x xs ih =>
    rw [List.splitOnP_cons_eq_if_modifyHead]
    cases hx : p x with
    | false => simp [hx, ih]
    | true =>
      obtain ⟨run, runs, hruns⟩ := List.exists_cons_of_ne_nil (List.splitOnP_ne_nil _ xs)
      rw [hruns, List.flatten_cons] at ih
      simp [hx, hruns, ← ih]

theorem flatten_filter_nonempty {α : Type} (runs : List (List α)) :
    (runs.filter fun run => !run.isEmpty).flatten = runs.flatten := by
  induction runs with
  | nil => rfl
  | cons run runs ih => cases run <;> simp [ih]

/-- The runs hold the characters that satisfy `p`, in their order. -/
theorem runs_flatMap (p : Char → Bool) (text : String) :
    (runs p text).flatMap String.toList = text.toList.filter p := by
  have htexts : ∀ chars : List (List Char),
      (chars.map String.ofList).flatMap String.toList = chars.flatten := by
    intro chars
    induction chars with
    | nil => rfl
    | cons run chars ih => simp [ih]
  rw [runs, htexts, flatten_filter_nonempty, flatten_splitOnP]

/-- `run` stands in `text`, of characters that satisfy `p`, and no longer run of them holds it. -/
def StandsIn (p : Char → Bool) (run text : List Char) : Prop :=
  (∀ c ∈ run, p c = true) ∧ ∃ before after, text = before ++ run ++ after ∧
    (∀ c ∈ before.getLast?, p c = false) ∧ ∀ c ∈ after.head?, p c = false

/-- A text is one run, or begins with a run and a character outside the class. -/
theorem run_cases (p : Char → Bool) (text : List Char) :
    (∀ c ∈ text, p c = true) ∨ ∃ first sep rest, text = first ++ sep :: rest ∧
      (∀ c ∈ first, p c = true) ∧ p sep = false := by
  have hsplit : text.takeWhile p ++ text.dropWhile p = text := List.takeWhile_append_dropWhile
  have hfirst : ∀ c ∈ text.takeWhile p, p c = true := fun c hc => List.mem_takeWhile_imp hc
  cases hrest : text.dropWhile p with
  | nil =>
    rw [hrest, List.append_nil] at hsplit
    rw [hsplit] at hfirst
    exact .inl hfirst
  | cons sep rest =>
    have hsep := List.head_dropWhile_not p (l := text) (by rw [hrest]; exact List.cons_ne_nil _ _)
    rw [hrest] at hsplit
    exact .inr ⟨text.takeWhile p, sep, rest, hsplit.symm, hfirst, by simpa [hrest] using hsep⟩

theorem standsIn_of_mem_splitOnP {p : Char → Bool} {run text : List Char}
    (h : run ∈ text.splitOnP fun c => !p c) : StandsIn p run text := by
  induction hlen : text.length using Nat.strong_induction_on generalizing text with
  | _ n ih =>
    rcases run_cases p text with hall | ⟨first, sep, rest, rfl, hfirst, hsep⟩
    · rw [List.splitOnP_eq_singleton fun c hc => by simp [hall c hc], List.mem_singleton] at h
      subst h
      exact ⟨hall, [], [], by simp, by simp, by simp⟩
    · rw [List.splitOnP_append_cons_of_forall_mem (fun c hc => by simp [hfirst c hc]) sep
        (by simp [hsep]), List.mem_cons] at h
      rcases h with rfl | h
      · exact ⟨hfirst, [], sep :: rest, by simp, by simp, by simp [hsep]⟩
      · have hshort : rest.length < n := by
          rw [← hlen, List.length_append, List.length_cons]
          omega
        obtain ⟨hrun, before, after, rfl, hbefore, hafter⟩ := ih _ hshort h rfl
        refine ⟨hrun, first ++ sep :: before, after, by simp, ?_, hafter⟩
        intro c hc
        rw [List.getLast?_append, List.getLast?_cons] at hc
        cases hlast : before.getLast? with
        | none =>
          rw [hlast] at hc
          obtain rfl : sep = c := by simpa using hc
          exact hsep
        | some last =>
          rw [hlast] at hc
          obtain rfl : last = c := by simpa using hc
          exact hbefore last hlast

theorem StandsIn.mem_splitOnP {p : Char → Bool} {run text : List Char} (h : StandsIn p run text) :
    run ∈ text.splitOnP fun c => !p c := by
  obtain ⟨hrun, before, after, rfl, hbefore, hafter⟩ := h
  have hwhole : run.splitOnP (fun c => !p c) = [run] :=
    List.splitOnP_eq_singleton fun c hc => by rw [hrun c hc]; rfl
  have hhead : run ∈ (run ++ after).splitOnP fun c => !p c := by
    cases after with
    | nil => rw [List.append_nil, hwhole]; exact List.mem_singleton_self run
    | cons sep after =>
      rw [List.splitOnP_append_cons _ _ (by simpa using hafter sep rfl), hwhole]
      exact List.mem_append_left _ (List.mem_singleton_self run)
  rcases before.eq_nil_or_concat with rfl | ⟨before, sep, rfl⟩
  · exact hhead
  · rw [List.concat_eq_append, List.append_assoc, List.append_assoc, List.singleton_append,
      List.splitOnP_append_cons _ _ (by simpa using hbefore sep (by simp))]
    exact List.mem_append_right _ hhead

theorem mem_runs {p : Char → Bool} {run text : String} :
    run ∈ runs p text ↔ run ≠ "" ∧ StandsIn p run.toList text.toList := by
  unfold runs
  rw [List.mem_map]
  constructor
  · rintro ⟨chars, hchars, rfl⟩
    obtain ⟨hmem, hne⟩ := List.mem_filter.mp hchars
    rw [String.toList_ofList]
    refine ⟨fun hempty => ?_, standsIn_of_mem_splitOnP hmem⟩
    have hnil : chars = [] := by simpa using congrArg String.toList hempty
    simp [hnil] at hne
  · rintro ⟨hne, hstands⟩
    refine ⟨run.toList, List.mem_filter.mpr ⟨hstands.mem_splitOnP, ?_⟩, String.ofList_toList⟩
    simpa using hne

end Py
