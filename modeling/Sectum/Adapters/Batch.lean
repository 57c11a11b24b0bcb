import Mathlib
import Sectum.Lib.GreedySplit

/-! `sectum_ai.adapters.vector._batch`: the requests that a write to a hosted store is split into. -/

namespace Sectum

open Py

variable {R : Type}

section RequestBatches

variable (records : List R) (maxBytes : Int) (size : R → Nat) (maxRecords : Option Nat)

/-- The loop of `request_batches` at `records[index]`, with the records from there on, and what it
yields behind the loop. -/
def requestBatchesFrom (start total index : Nat) : List R → List (List R)
  | [] => if start < records.length then [records.drop start] else []
  | record :: rest =>
    let length := size record
    if start < index ∧ (maxBytes < total + length ∨ maxRecords = some (index - start)) then
      records.extract start index :: requestBatchesFrom index length (index + 1) rest
    else requestBatchesFrom start (total + length) (index + 1) rest

def requestBatches : List (List R) :=
  requestBatchesFrom records maxBytes size maxRecords 0 0 0 records

end RequestBatches

/-- What one request may hold. -/
def WithinCaps (maxBytes : Int) (size : R → Nat) (maxRecords : Option Nat) (batch : List R) : Prop :=
  (batch.map size).sum ≤ maxBytes ∧ ∀ cap ∈ maxRecords, batch.length ≤ cap

instance (maxBytes : Int) (size : R → Nat) (maxRecords : Option Nat) :
    DecidablePred (WithinCaps maxBytes size maxRecords) :=
  fun _ => inferInstanceAs (Decidable (_ ∧ _))

section Sound

variable {records : List R} {maxBytes : Int} {size : R → Nat} {maxRecords : Option Nat}

theorem WithinCaps.part (before mid after : List R)
    (h : WithinCaps maxBytes size maxRecords (before ++ mid ++ after)) :
    WithinCaps maxBytes size maxRecords mid := by
  obtain ⟨hbytes, hcount⟩ := h
  simp only [List.map_append, List.sum_append, List.length_append] at hbytes hcount
  refine ⟨by omega, fun cap hcap => ?_⟩
  have := hcount cap hcap
  omega

/-- The test of the loop, on a run that is within the caps or alone: the run cannot take `record`. -/
theorem not_withinCaps_iff {run : List R} {record : R}
    (hrun : ∀ cap ∈ maxRecords, run.length ≤ cap) :
    ¬WithinCaps maxBytes size maxRecords (run ++ [record]) ↔
      maxBytes < ((run.map size).sum + size record : Nat) ∨ maxRecords = some run.length := by
  simp only [WithinCaps, List.map_append, List.sum_append, List.length_append, List.map_cons,
    List.map_nil, List.sum_singleton, List.length_singleton, not_and_or, not_le]
  apply or_congr Iff.rfl
  cases maxRecords with
  | none => simp
  | some cap =>
    have := hrun cap rfl
    simp only [Option.mem_some_iff, forall_eq', Option.some.injEq]
    omega

/-- The loop cuts what it has not yielded as the greedy split does: `run` is
`records[start:index]`. -/
theorem requestBatchesFrom_eq (hcap : ∀ cap ∈ maxRecords, 1 ≤ cap) {before run rest : List R}
    (hrecords : records = before ++ run ++ rest) (hrun : ∀ cap ∈ maxRecords, run.length ≤ cap) :
    requestBatchesFrom records maxBytes size maxRecords before.length (run.map size).sum
        (before.length + run.length) rest =
      greedyRuns (WithinCaps maxBytes size maxRecords) run rest := by
  induction rest generalizing before run with
  | nil =>
    rw [requestBatchesFrom, greedyRuns, hrecords]
    cases run <;> simp
  | cons record rest ih =>
    rw [requestBatchesFrom, greedyRuns]
    have htest : (before.length < before.length + run.length ∧
          (maxBytes < (run.map size).sum + size record ∨
            maxRecords = some (before.length + run.length - before.length))) ↔
        ¬(run = [] ∨ WithinCaps maxBytes size maxRecords (run ++ [record])) := by
      rw [not_or, not_withinCaps_iff hrun, Nat.add_sub_cancel_left, Int.natCast_add]
      refine and_congr ?_ Iff.rfl
      rw [← ne_eq, ← List.length_pos_iff]
      omega
    simp only [htest, ite_not]
    split
    · rename_i htaken
      have hrun' : ∀ cap ∈ maxRecords, (run ++ [record]).length ≤ cap := by
        rcases htaken with rfl | hfits
        · simpa using hcap
        · exact hfits.2
      have hrecords' : records = before ++ (run ++ [record]) ++ rest := by simp [hrecords]
      have := ih hrecords' hrun'
      simpa [Nat.add_assoc] using this
    · have hyield : records.extract before.length (before.length + run.length) = run := by
        simp [hrecords, List.extract]
      have hrecords' : records = (before ++ run) ++ [record] ++ rest := by simp [hrecords]
      have := ih hrecords' (by simpa using hcap)
      rw [hyield]
      simpa using this

theorem requestBatches_greedy (hcap : ∀ cap ∈ maxRecords, 1 ≤ cap) :
    GreedySplit (WithinCaps maxBytes size maxRecords) records
      (requestBatches records maxBytes size maxRecords) := by
  have heq : requestBatches records maxBytes size maxRecords =
      greedyRuns (WithinCaps maxBytes size maxRecords) [] records := by
    have hrecords : records = [] ++ [] ++ records := rfl
    exact requestBatchesFrom_eq hcap hrecords (by simp)
  rw [heq]
  exact greedyRuns_spec [] records (by simp)

/-- The requests carry the records in order and without loss, none is empty, each is within the caps
but for a record that alone exceeds the bytes, and each takes the first record of the next where it
can. -/
theorem requestBatches_sound (hcap : ∀ cap ∈ maxRecords, 1 ≤ cap) :
    (requestBatches records maxBytes size maxRecords).flatten = records ∧
      (∀ batch ∈ requestBatches records maxBytes size maxRecords,
        batch ≠ [] ∧ (∀ cap ∈ maxRecords, batch.length ≤ cap) ∧
          ((batch.map size).sum ≤ maxBytes ∨
            ∃ record, batch = [record] ∧ maxBytes < size record)) ∧
      (requestBatches records maxBytes size maxRecords).IsChain fun batch next =>
        ∀ record ∈ next.head?, ¬WithinCaps maxBytes size maxRecords (batch ++ [record]) := by
  have hsplit : GreedySplit (WithinCaps maxBytes size maxRecords) records
      (requestBatches records maxBytes size maxRecords) := requestBatches_greedy hcap
  refine ⟨hsplit.flatten, fun batch hbatch => ⟨hsplit.nonempty batch hbatch, ?_⟩, hsplit.greedy⟩
  rcases hsplit.within batch hbatch with ⟨hbytes, hcount⟩ | halone
  · exact ⟨hcount, .inl hbytes⟩
  · obtain ⟨record, rfl⟩ := List.length_eq_one_iff.mp halone
    refine ⟨hcap, ?_⟩
    by_cases hover : maxBytes < size record
    · exact .inr ⟨record, rfl, hover⟩
    · exact .inl (by simpa using hover)

theorem requestBatches_sound_lone :
    (requestBatches [1, 50, 1] 10 id (some 2)).flatten = [1, 50, 1] ∧
      (∀ batch ∈ requestBatches [1, 50, 1] 10 id (some 2),
        batch ≠ [] ∧ (∀ cap ∈ some 2, batch.length ≤ cap) ∧
          ((batch.map id).sum ≤ (10 : Int) ∨
            ∃ record, batch = [record] ∧ (10 : Int) < (id record : Nat))) ∧
      (requestBatches [1, 50, 1] 10 id (some 2)).IsChain fun batch next =>
        ∀ record ∈ next.head?, ¬WithinCaps 10 id (some 2) (batch ++ [record]) :=
  requestBatches_sound (by simp)

/-- No other way to send the records in order and within the caps takes fewer requests. -/
theorem requestBatches_fewest (hcap : ∀ cap ∈ maxRecords, 1 ≤ cap) {requests : List (List R)}
    (hrequests : IsSplit (WithinCaps maxBytes size maxRecords) records requests) :
    (requestBatches records maxBytes size maxRecords).length ≤ requests.length :=
  (requestBatches_greedy hcap).length_le WithinCaps.part hrequests (List.suffix_refl records)

end Sound

end Sectum
