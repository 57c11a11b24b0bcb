import Mathlib.Data.Prod.Lex
import Sectum.Lib.KeyedMerge
import Sectum.Spec.Models

/-! `dedupe_findings` of `sectum_ai.probes.detection`: findings that share a finding id collapse to
the strongest, in first-seen order. -/

namespace Sectum

def confirmedFindings (findings : List Finding) : List Finding :=
  findings.filter fun finding => finding.status = .confirmed

def statusRank (status : FindingStatus) : Nat := if status = .confirmed then 1 else 0

/-- `_finding_strength`, compared as Python compares tuples. -/
def findingStrength (f : Finding) : Nat ×ₗ Nat ×ₗ ℚ :=
  toLex (statusRank f.status, toLex (f.severity.rank, f.confidence.val))

/-- `tuple(dict.fromkeys((*first, *second)))`. -/
def union (first second : List String) : List String := (first ++ second).eraseDups

def withTechniquesOf (winner loser : Finding) : Finding :=
  { winner with
    atlas := union winner.atlas loser.atlas
    owaspSecondary := union winner.owaspSecondary loser.owaspSecondary }

/-- The record kept for a finding id after one more finding of that id. -/
def mergeFindings (existing f : Finding) : Finding :=
  let (winner, loser) :=
    if findingStrength existing < findingStrength f then (f, existing) else (existing, f)
  if winner.status = loser.status then withTechniquesOf winner loser else winner

def dedupeFindings (findings : List Finding) : List Finding :=
  KeyedMerge.values Finding.findingId mergeFindings findings

theorem findingStrength_status {a b : Finding} (h : findingStrength a ≤ findingStrength b) :
    a.status = .confirmed → b.status = .confirmed := by
  intro ha
  have hrank : statusRank a.status ≤ statusRank b.status := by
    rcases Prod.Lex.le_iff.mp h with hlt | ⟨heq, -⟩
    · exact hlt.le
    · exact heq.le
  by_contra hb
  simp [statusRank, ha, hb] at hrank

theorem mergeFindings_cases (existing f : Finding) :
    ∃ winner loser, (winner = f ∧ loser = existing ∨ winner = existing ∧ loser = f) ∧
      findingStrength loser ≤ findingStrength winner ∧
      mergeFindings existing f =
        if winner.status = loser.status then withTechniquesOf winner loser else winner := by
  unfold mergeFindings
  by_cases h : findingStrength existing < findingStrength f
  · exact ⟨f, existing, Or.inl ⟨rfl, rfl⟩, h.le, by simp [h]⟩
  · exact ⟨existing, f, Or.inr ⟨rfl, rfl⟩, not_lt.mp h, by simp [h]⟩

theorem mergeFindings_findingId (existing f : Finding) (h : existing.findingId = f.findingId) :
    (mergeFindings existing f).findingId = existing.findingId := by
  obtain ⟨winner, loser, hwho, -, hmerge⟩ := mergeFindings_cases existing f
  have hid : winner.findingId = existing.findingId := by
    rcases hwho with ⟨rfl, rfl⟩ | ⟨rfl, rfl⟩
    · exact h.symm
    · rfl
  rw [hmerge]
  split <;> exact hid

theorem mergeFindings_confirmed (existing f : Finding) :
    (mergeFindings existing f).status = .confirmed ↔
      existing.status = .confirmed ∨ f.status = .confirmed := by
  obtain ⟨winner, loser, hwho, hstrength, hmerge⟩ := mergeFindings_cases existing f
  have hstatus : (mergeFindings existing f).status = winner.status := by
    rw [hmerge]
    split <;> rfl
  have hloser := findingStrength_status hstrength
  rw [hstatus]
  rcases hwho with ⟨rfl, rfl⟩ | ⟨rfl, rfl⟩
  · exact ⟨Or.inr, fun h => h.elim hloser id⟩
  · exact ⟨Or.inl, fun h => h.elim id hloser⟩

/-- The record that survives under an id is confirmed exactly when some finding of that id is. -/
theorem dedupeFindings_confirmed {findings : List Finding} {kept : Finding}
    (h : kept ∈ dedupeFindings findings) :
    kept.status = .confirmed ↔
      ∃ f ∈ findings, f.findingId = kept.findingId ∧ f.status = .confirmed :=
  KeyedMerge.values_absorb (P := fun f => f.status = .confirmed) Finding.findingId mergeFindings
    mergeFindings_findingId (fun a b _ => mergeFindings_confirmed a b) h

theorem exists_mem_dedupeFindings {findings : List Finding} {f : Finding} (h : f ∈ findings) :
    ∃ kept ∈ dedupeFindings findings, kept.findingId = f.findingId :=
  KeyedMerge.exists_mem_values Finding.findingId mergeFindings mergeFindings_findingId h

theorem status_of_rank {a b : FindingStatus} (h : statusRank a = statusRank b) : a = b := by
  cases a <;> cases b <;> first | rfl | simp [statusRank] at h

theorem findingStrength_eq {a b : Finding} (h : findingStrength a = findingStrength b) :
    a.status = b.status ∧ a.severity = b.severity ∧ a.confidence = b.confidence := by
  simp only [findingStrength, toLex_inj, Prod.mk.injEq] at h
  exact ⟨status_of_rank h.1, Severity.rank_injective h.2.1, Subtype.ext h.2.2⟩

theorem mem_union {first second : List String} {t : String} :
    t ∈ union first second ↔ t ∈ first ∨ t ∈ second := by
  rw [union, List.mem_eraseDups, List.mem_append]

/-- What the record kept for an id says about the findings merged into it: it is as strong as the
strongest, and has the techniques of those that reached its verdict. -/
structure Merges (group : List Finding) (kept : Finding) : Prop where
  attained : ∃ f ∈ group, findingStrength f = findingStrength kept
  strongest : ∀ f ∈ group, findingStrength f ≤ findingStrength kept
  atlas : ∀ t, t ∈ kept.atlas ↔ ∃ f ∈ group, f.status = kept.status ∧ t ∈ f.atlas
  owaspSecondary : ∀ t, t ∈ kept.owaspSecondary ↔
    ∃ f ∈ group, f.status = kept.status ∧ t ∈ f.owaspSecondary

theorem merges_one (f : Finding) : Merges [f] f := by
  constructor <;> simp

/-- A finding of another verdict that is at least as strong as the strongest of a group has a
verdict that no finding of the group reached. -/
theorem Merges.status_ne {group : List Finding} {winner loser : Finding} (h : Merges group loser)
    (hle : findingStrength loser ≤ findingStrength winner) (hne : winner.status ≠ loser.status) :
    ∀ f ∈ group, f.status ≠ winner.status := by
  intro f hf hsame
  cases hw : winner.status with
  | confirmed =>
    have hloser := findingStrength_status (h.strongest f hf) (by rw [hsame, hw])
    exact hne (by rw [hw, hloser])
  | unverified =>
    have hloser : loser.status ≠ .confirmed := fun hc => by
      have := findingStrength_status hle hc
      rw [hw] at this
      cases this
    cases hl : loser.status with
    | confirmed => exact hloser hl
    | unverified => exact hne (by rw [hw, hl])

theorem Merges.merge {group first second : List Finding} {winner loser : Finding}
    (hw : Merges first winner) (hl : Merges second loser)
    (hle : findingStrength loser ≤ findingStrength winner)
    (hgroup : ∀ f, f ∈ group ↔ f ∈ first ∨ f ∈ second) :
    Merges group
      (if winner.status = loser.status then withTechniquesOf winner loser else winner) := by
  have hattained : ∃ f ∈ group, findingStrength f = findingStrength winner := by
    obtain ⟨f, hf, hstrength⟩ := hw.attained
    exact ⟨f, (hgroup f).mpr (.inl hf), hstrength⟩
  have hstrongest : ∀ f ∈ group, findingStrength f ≤ findingStrength winner := by
    intro f hf
    rcases (hgroup f).mp hf with hf | hf
    · exact hw.strongest f hf
    · exact (hl.strongest f hf).trans hle
  have hexists : ∀ P : Finding → Prop,
      (∃ f ∈ group, P f) ↔ (∃ f ∈ first, P f) ∨ ∃ f ∈ second, P f := by
    intro P
    simp only [hgroup, or_and_right, exists_or]
  by_cases hsame : winner.status = loser.status
  · rw [if_pos hsame]
    refine ⟨hattained, hstrongest, fun t => ?_, fun t => ?_⟩
    · show t ∈ union winner.atlas loser.atlas ↔ ∃ f ∈ group, f.status = winner.status ∧ t ∈ f.atlas
      rw [mem_union, hexists, hw.atlas, hl.atlas, hsame]
    · show t ∈ union winner.owaspSecondary loser.owaspSecondary ↔
        ∃ f ∈ group, f.status = winner.status ∧ t ∈ f.owaspSecondary
      rw [mem_union, hexists, hw.owaspSecondary, hl.owaspSecondary, hsame]
  · rw [if_neg hsame]
    have hnone : ∀ P : Finding → Prop, ¬∃ f ∈ second, f.status = winner.status ∧ P f := by
      rintro P ⟨f, hf, hstatus, -⟩
      exact hl.status_ne hle hsame f hf hstatus
    refine ⟨hattained, hstrongest, fun t => ?_, fun t => ?_⟩
    · rw [hexists, hw.atlas, or_iff_left (hnone _)]
    · rw [hexists, hw.owaspSecondary, or_iff_left (hnone _)]

theorem Merges.mergeFindings {group : List Finding} {existing : Finding} (h : Merges group existing)
    (f : Finding) : Merges (group ++ [f]) (mergeFindings existing f) := by
  obtain ⟨winner, loser, hwho, hle, hmerge⟩ := mergeFindings_cases existing f
  rw [hmerge]
  rcases hwho with ⟨rfl, rfl⟩ | ⟨rfl, rfl⟩
  · exact (merges_one _).merge h hle fun g => by rw [List.mem_append, or_comm]
  · exact h.merge (merges_one _) hle fun g => List.mem_append

/-- Findings with one id merge to one record as strong as the strongest of them, with the
techniques of all that reached its verdict; merging what was merged before changes nothing. -/
theorem dedupeFindings_faithful (findings : List Finding) :
    ((dedupeFindings findings).map Finding.findingId).Nodup ∧
    (dedupeFindings findings).map Finding.findingId =
      (findings.map Finding.findingId).eraseDups ∧
    (∀ kept ∈ dedupeFindings findings,
      (∃ f ∈ findings, f.findingId = kept.findingId ∧ f.status = kept.status ∧
        f.severity = kept.severity ∧ f.confidence = kept.confidence) ∧
      (∀ f ∈ findings, f.findingId = kept.findingId → findingStrength f ≤ findingStrength kept) ∧
      (kept.status = .confirmed ↔
        ∃ f ∈ findings, f.findingId = kept.findingId ∧ f.status = .confirmed) ∧
      (∀ t, t ∈ kept.atlas ↔ ∃ f ∈ findings, f.findingId = kept.findingId ∧
        f.status = kept.status ∧ t ∈ f.atlas) ∧
      ∀ t, t ∈ kept.owaspSecondary ↔ ∃ f ∈ findings, f.findingId = kept.findingId ∧
        f.status = kept.status ∧ t ∈ f.owaspSecondary) ∧
    ∀ more, dedupeFindings (dedupeFindings findings ++ more) =
      dedupeFindings (findings ++ more) := by
  have hids := KeyedMerge.keys_values Finding.findingId mergeFindings mergeFindings_findingId findings
  refine ⟨?_, hids, ?_, ?_⟩
  · rw [dedupeFindings, hids]
    exact KeyedMerge.nodup_eraseDups _
  · intro kept hkept
    have h : Merges (findings.filter fun f => f.findingId = kept.findingId) kept :=
      KeyedMerge.values_induct (P := Merges) Finding.findingId mergeFindings mergeFindings_findingId
        merges_one (fun _ _ f _ ih => ih.mergeFindings f) hkept
    have hgroup : ∀ P : Finding → Prop,
        (∃ f ∈ findings.filter fun f => f.findingId = kept.findingId, P f) ↔
          ∃ f ∈ findings, f.findingId = kept.findingId ∧ P f := by
      intro P
      simp [and_assoc]
    refine ⟨?_, ?_, dedupeFindings_confirmed hkept, ?_, ?_⟩
    · obtain ⟨f, hf, hstrength⟩ := h.attained
      exact (hgroup _).mp ⟨f, hf, findingStrength_eq hstrength⟩
    · intro f hf hid
      exact h.strongest f (List.mem_filter.mpr ⟨hf, by simpa using hid⟩)
    · intro t
      rw [h.atlas, hgroup]
    · intro t
      rw [h.owaspSecondary, hgroup]
  · intro more
    exact KeyedMerge.values_values_append Finding.findingId mergeFindings mergeFindings_findingId
      findings more

end Sectum
