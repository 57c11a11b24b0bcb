import Mathlib.Data.Finset.Sort
import Sectum.Spec.Models

/-! `sectum_ai.evidence.labels`: what a finding is, and which surface of the record's provenance it
rests on. -/

namespace Sectum

/-- The provenance key that a finding's verdict rests on. -/
def Finding.backingSurface (f : Finding) : Surface :=
  if f.surface = .kvCache then .modelAdapter else f.surface

def RunResult.exercisedSurfaces (run : RunResult) : Finset Surface :=
  run.surfaceProvenance.keys.toFinset

theorem RunResult.mem_exercisedSurfaces {run : RunResult} {surface : Surface} :
    surface ∈ run.exercisedSurfaces ↔ surface ∈ run.surfaceProvenance := by
  rw [exercisedSurfaces, List.mem_toFinset, AList.mem_keys]

/-- Surfaces that the findings rest on and the provenance block does not record. -/
def unaccountedSurfaces (run : RunResult) : Finset Surface :=
  if run.exercisedSurfaces = ∅ then ∅
  else (run.findings.map Finding.backingSurface).toFinset \ run.exercisedSurfaces

namespace Finding

/-- Whether the finding crosses a tenant or user boundary. -/
def isCrossPrincipal (f : Finding) : Bool :=
  if f.ownerTenantId ≠ f.observedInTenantId then true
  else
    match f.ownerUserId, f.observedInUserId with
    | some owner, some observed => owner ≠ observed
    | _, _ => false

def leakLabel (f : Finding) : String :=
  if !f.isCrossPrincipal then
    if f.status = .confirmed then "residual-data finding" else "residual-data candidate"
  else
    (if f.ownerTenantId ≠ f.observedInTenantId then "cross-tenant" else "cross-user") ++ " " ++
      (if f.status = .confirmed then "leak" else "candidate")

end Finding

/-- `sorted(surfaces)`. -/
def sortedSurfaces (surfaces : Finset Surface) : List Surface := surfaces.sort (· ≤ ·)

def joinSurfaces (surfaces : Finset Surface) : String :=
  Py.join ", " ((sortedSurfaces surfaces).map Surface.value)

end Sectum
