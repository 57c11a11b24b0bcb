import Sectum.Core.ProbeRecordSound
import Sectum.Lib.Groups
import Sectum.Probes.FindingIds

/-! The rate of sequences beside the rate of steps: both count leaks, one by the sequence and the
other by the step, so that neither is without the other and, where sequences are of one length, the
second is within that length of the first. -/

namespace Sectum

open Py

section Identity

/-- The sequence of a step: who acts, and the value under `key`. -/
def sequenceOf (key : String) (step : ProbeStep) : UUID × Option UUID × String :=
  (step.actorTenantId, step.actorUserId, step.payload.getD key "")

/-- The digits of an id are what is left of its text without the dashes. -/
theorem filter_str (id : UUID) : id.str.toList.filter (· ≠ '-') = id.hex.toList := by
  have hdash : ∀ c ∈ id.hex.toList, c ≠ '-' := by
    rintro c hc rfl
    exact absurd (isHexDigit_hex 32 id.bits.toNat '-' hc) (by decide)
  have hpart (start count : Nat) : ((id.hex.toList.drop start).take count).filter (· ≠ '-') =
      (id.hex.toList.drop start).take count := by
    rw [List.filter_eq_self]
    exact fun c hc => decide_eq_true (hdash c (List.mem_of_mem_drop (List.mem_of_mem_take hc)))
  have hlength := length_hex_uuid id
  generalize hdigits : id.hex.toList = digits at hpart hlength
  have hstr : id.str.toList = digits.take 8 ++ '-' :: ((digits.drop 8).take 4 ++ '-' ::
      ((digits.drop 12).take 4 ++ '-' :: ((digits.drop 16).take 4 ++ '-' ::
        (digits.drop 20).take 12))) := by
    simp [UUID.str, join, String.intercalate_cons_cons, hdigits]
  have h0 := hpart 0 8
  rw [List.drop_zero] at h0
  rw [hstr]
  simp only [List.filter_append, List.filter_cons_of_neg, ne_eq, not_true_eq_false, decide_false,
    Bool.false_eq_true, not_false_eq_true, hpart, h0]
  have hrest : (digits.drop 20).take 12 = digits.drop 20 :=
    List.take_of_length_le (by rw [List.length_drop]; omega)
  have hjoin (start count : Nat) : (digits.drop start).take count ++ digits.drop (start + count) =
      digits.drop start := by
    rw [← List.drop_drop, List.take_append_drop]
  rw [hrest, hjoin 16 4, hjoin 12 4, hjoin 8 4, List.take_append_drop]

theorem str_uuid_injective : Function.Injective UUID.str := fun a b h =>
  hex_uuid_injective (String.toList_injective (by rw [← filter_str, h, filter_str]))

theorem str_uuid_ne_empty (id : UUID) : id.str ≠ "" := by
  intro h
  have hlength := length_hex_uuid id
  rw [← filter_str, h] at hlength
  cases hlength

/-- Stringifying who acts keeps apart what is apart. -/
theorem sequenceIdentity_eq_iff {key : String} {a b : ProbeStep} :
    sequenceIdentity key a = sequenceIdentity key b ↔ sequenceOf key a = sequenceOf key b := by
  have huser : (sequenceIdentity key a).2.1 = (sequenceIdentity key b).2.1 ↔
      a.actorUserId = b.actorUserId := by
    unfold sequenceIdentity
    cases a.actorUserId with
    | none =>
      cases b.actorUserId with
      | none => simp
      | some user => simpa using (str_uuid_ne_empty user).symm
    | some user =>
      cases b.actorUserId with
      | none => simpa using str_uuid_ne_empty user
      | some other => simpa using str_uuid_injective.eq_iff
  rw [Prod.ext_iff, Prod.ext_iff, huser]
  simp only [sequenceOf, Prod.mk.injEq]
  exact and_congr str_uuid_injective.eq_iff Iff.rfl

end Identity

section Rates

variable {results : List StepResult}

/-- The test of both rates. -/
def leaks (result : StepResult) : Bool := confirmedFindings result.2 ≠ []

theorem lookup_sequences (key : String) (results : List StepResult)
    (identity : String × String × String) :
    (sequences key results).lookup identity =
      if ∃ result ∈ results, sequenceIdentity key result.1 = identity then
        some (decide (∃ result ∈ results, leaks result ∧ sequenceIdentity key result.1 = identity))
      else none := by
  induction results using List.reverseRecOn with
  | nil => simp [sequences]
  | append_singleton results result ih =>
    rw [sequences_concat, Dict.lookup_set]
    by_cases hsame : identity = sequenceIdentity key result.1
    · subst hsame
      have hget : (sequences key results).getD (sequenceIdentity key result.1) false =
          decide (∃ other ∈ results, leaks other ∧
            sequenceIdentity key other.1 = sequenceIdentity key result.1) := by
        rw [Dict.getD, ih]
        split
        · rfl
        · rename_i hnone
          refine (decide_eq_false ?_).symm
          rintro ⟨other, hother, -, heq⟩
          exact hnone ⟨other, hother, heq⟩
      have hnow : decide (confirmedFindings result.2 ≠ []) = leaks result := rfl
      rw [if_pos rfl, if_pos ⟨result, by simp, rfl⟩, hget, hnow]
      refine congrArg some (Bool.eq_iff_iff.mpr ?_)
      simp [or_and_right, exists_or]
    · have hother : sequenceIdentity key result.1 ≠ identity := Ne.symm hsame
      rw [if_neg hsame, ih]
      refine if_congr ?_ (congrArg some (decide_eq_decide.mpr ?_)) rfl
      · simp [or_and_right, exists_or, hother]
      · simp [or_and_right, exists_or, hother]

/-- The sequences are the groups of the steps, and those that leaked the groups of the steps that
did. -/
theorem confirmedSequenceRate_eq (key : String) (results : List StepResult) :
    confirmedSequenceRate results key =
      groupCount (fun result => sequenceIdentity key result.1) (results.filter leaks) /
        groupCount (fun result => sequenceIdentity key result.1) results := by
  unfold confirmedSequenceRate
  split
  · rename_i hnil
    simp [hnil, groupCount]
  · have hkeys (identity : String × String × String) : identity ∈ sequences key results ↔
        ∃ result ∈ results, sequenceIdentity key result.1 = identity := by
      rw [Dict.mem_iff_lookup, lookup_sequences]
      split
      · rename_i hsome
        simpa using hsome
      · rename_i hnone
        exact iff_of_false (by simp) hnone
    have hleaked (identity : String × String × String) :
        (sequences key results).lookup identity = some true ↔
          ∃ result ∈ results, leaks result = true ∧ sequenceIdentity key result.1 = identity := by
      rw [lookup_sequences]
      split
      · simp
      · rename_i hnone
        simp only [reduceCtorEq, false_iff]
        rintro ⟨result, hresult, -, heq⟩
        exact hnone ⟨result, hresult, heq⟩
    show ((_ : Nat) : ℚ) / ((_ : Nat) : ℚ) = _
    rw [Dict.countP_items hleaked, List.length_map, Dict.length_items hkeys]

theorem confirmedFindingRate_eq (results : List StepResult) :
    confirmedFindingRate results = (results.filter leaks).length / results.length := by
  unfold confirmedFindingRate
  split
  · rename_i hnil
    simp [hnil]
  · rw [List.countP_eq_length_filter]
    rfl

theorem confirmedSequenceRate_perm (key : String) {others : List StepResult}
    (h : results.Perm others) :
    confirmedSequenceRate others key = confirmedSequenceRate results key := by
  rw [confirmedSequenceRate_eq, confirmedSequenceRate_eq, groupCount_perm h,
    groupCount_perm (h.filter leaks)]

/-- A sequence of `m` steps that leaked did so in one of them at least and in `m` at most. -/
theorem confirmedSequenceRate_between (key : String) {m : Nat} (hm : 1 ≤ m)
    (hlength : ∀ result ∈ results,
      (results.countP fun other => sequenceOf key other.1 = sequenceOf key result.1) = m) :
    confirmedFindingRate results ≤ confirmedSequenceRate results key ∧
      confirmedSequenceRate results key ≤ m * confirmedFindingRate results := by
  have hall : ∀ result ∈ results, (results.countP fun other =>
      sequenceIdentity key other.1 = sequenceIdentity key result.1) = m := by
    simpa only [sequenceIdentity_eq_iff] using hlength
  have hleaked : ∀ result ∈ results.filter leaks, ((results.filter leaks).countP fun other =>
      sequenceIdentity key other.1 = sequenceIdentity key result.1) ≤ m := by
    intro result hresult
    rw [← hall result (List.mem_of_mem_filter hresult)]
    exact List.filter_sublist.countP_le
  have hsteps := length_eq_groups hall
  have hleaks := length_le_groups hleaked
  have hsome : groupCount (fun result : StepResult => sequenceIdentity key result.1)
      (results.filter leaks) ≤ (results.filter leaks).length := groupCount_le_length
  rw [confirmedSequenceRate_eq, confirmedFindingRate_eq, hsteps]
  generalize groupCount (fun result : StepResult => sequenceIdentity key result.1)
    (results.filter leaks) = leakedGroups at hleaks hsome ⊢
  generalize groupCount (fun result : StepResult => sequenceIdentity key result.1) results = groups
  generalize (results.filter leaks).length = leakedSteps at hleaks hsome ⊢
  have hm' : (0 : ℚ) < m := by exact_mod_cast hm
  have hleaks' : (leakedSteps : ℚ) ≤ m * leakedGroups := by exact_mod_cast hleaks
  have hsome' : (leakedGroups : ℚ) ≤ leakedSteps := by exact_mod_cast hsome
  push_cast
  constructor
  · calc (leakedSteps : ℚ) / (m * groups) ≤ (m * leakedGroups) / (m * groups) := by gcongr
      _ = leakedGroups / groups := mul_div_mul_left _ _ hm'.ne'
  · calc (leakedGroups : ℚ) / groups ≤ leakedSteps / groups := by gcongr
      _ = m * (leakedSteps / (m * groups)) := by
        rw [← mul_div_assoc, mul_div_mul_left _ _ hm'.ne']

theorem rates_pos_iff (key : String) (results : List StepResult) :
    0 < confirmedFindingRate results ↔ 0 < confirmedSequenceRate results key := by
  rcases eq_or_ne results [] with rfl | hne
  · rfl
  · rw [(confirmedFindingRate_spec hne).pos_iff, (confirmedSequenceRate_spec key hne).pos_iff]

theorem confirmedSequenceRate_eq_one (key : String) (h : confirmedFindingRate results = 1) :
    confirmedSequenceRate results key = 1 := by
  rw [confirmedFindingRate_eq] at h
  have hlength : (results.length : ℚ) ≠ 0 := by
    intro hzero
    rw [hzero, div_zero] at h
    exact zero_ne_one h
  have hall : results.filter leaks = results := by
    apply List.filter_sublist.eq_of_length
    rw [div_eq_one_iff_eq hlength] at h
    exact_mod_cast h
  have hne : results ≠ [] := by
    rintro rfl
    exact hlength rfl
  have hgroups : 0 < groupCount (fun result : StepResult => sequenceIdentity key result.1) results :=
    groupCount_pos.mpr hne
  rw [confirmedSequenceRate_eq, hall]
  exact div_self (by exact_mod_cast hgroups.ne')

/-- The rate of sequences never understates the rate of steps where the sequences are of one length,
the two are positive and full together, and the order of the steps says nothing. -/
theorem confirmedSequenceRate_sound (key : String) (results : List StepResult) :
    (∀ m : Nat, 1 ≤ m →
      (∀ result ∈ results,
        (results.countP fun other => sequenceOf key other.1 = sequenceOf key result.1) = m) →
      confirmedFindingRate results ≤ confirmedSequenceRate results key ∧
        confirmedSequenceRate results key ≤ m * confirmedFindingRate results) ∧
    (0 < confirmedFindingRate results ↔ 0 < confirmedSequenceRate results key) ∧
    (confirmedFindingRate results = 1 → confirmedSequenceRate results key = 1) ∧
    ∀ others : List StepResult, results.Perm others →
      confirmedSequenceRate others key = confirmedSequenceRate results key :=
  ⟨fun _ hm hlength => confirmedSequenceRate_between key hm hlength, rates_pos_iff key results,
    confirmedSequenceRate_eq_one key, fun _ h => confirmedSequenceRate_perm key h⟩

/-- A follow-up about an entity, and whether it surfaces what another tenant owns. -/
def followUp (entity : String) (leaking : Bool) : StepResult :=
  ({ stepId := "step", probeId := ikeaExtractionId, actorTenantId := ⟨2⟩
     action := "vector.query", payload := Dict.ofItems [("entity", entity)] },
    if leaking then [suiteLeak ikeaExtractionId .vectorDb] else [])

def interleavedFollowUps : List StepResult :=
  [followUp "Acme" false, followUp "Globex" false, followUp "Acme" true, followUp "Globex" false]

/-- Two sequences of two steps, one after the other by turns. -/
theorem confirmedSequenceRate_sound_interleaved :
    confirmedFindingRate interleavedFollowUps ≤
        confirmedSequenceRate interleavedFollowUps "entity" ∧
      confirmedSequenceRate interleavedFollowUps "entity" ≤
        (2 : Nat) * confirmedFindingRate interleavedFollowUps :=
  (confirmedSequenceRate_sound "entity" interleavedFollowUps).1 2 (by decide) (by decide +kernel)

end Rates

end Sectum
