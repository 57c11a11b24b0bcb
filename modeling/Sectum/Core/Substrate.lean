import Sectum.Core.Corpus
import Sectum.Spec.Dump

/-! `sectum_ai.substrate.build` and `sectum_ai.substrate.manifest`: the substrate of a scenario. -/

namespace Sectum

open Py

section Dump

def SyntheticUserSpec.dump (user : SyntheticUserSpec) : Json :=
  Json.object [("user_id", dumpUuid user.userId), ("display_name", .text user.displayName)]

def SyntheticTenantSpec.dump (tenantSpec : SyntheticTenantSpec) : Json :=
  Json.object
    [("tenant_id", dumpUuid tenantSpec.tenantId),
      ("display_name", .text tenantSpec.displayName),
      ("industry", .text tenantSpec.industry),
      ("locale", .text tenantSpec.locale),
      ("corpus_size", .int tenantSpec.corpusSize),
      ("users", dumpList SyntheticUserSpec.dump tenantSpec.users)]

def SharedEntity.dump (entity : SharedEntity) : Json :=
  Json.object [("kind", .text entity.kind), ("value", .text entity.value)]

def Scenario.dump (scenario : Scenario) : Json :=
  Json.object
    [("scenario_id", .text scenario.scenarioId),
      ("seed", .int scenario.seed),
      ("tenants", dumpList SyntheticTenantSpec.dump scenario.tenants),
      ("corpus_profile", .text scenario.corpusProfile),
      ("shared_entities", dumpList SharedEntity.dump scenario.sharedEntities),
      ("embedding_models", dumpList .text scenario.embeddingModels),
      ("schema_version", .text scenario.schemaVersion)]

end Dump

section Build

variable [Hashlib] [JsonLimits] [FloatText]

def buildManifest (scenario : Scenario) (markers : List Marker) :
    Except Exn GroundTruthManifest := do
  let scenarioHash ← canonicalHash scenario.dump
  return { manifestId := "manifest-" ++ scenario.scenarioId, scenarioHash, markers }

omit [JsonLimits] [FloatText] in
/-- `_embedding_ref`: only an entity canary has one. -/
def embeddingRefOf (marker : Marker) (embeddingModels : List String) : Option String :=
  if marker.markerType = .entityCanary then
    some (embeddingModels.headD "fake-deterministic" ++ "/" ++
      sliceTo 16 (hexdigest (utf8 marker.plaintext)))
  else none

omit [JsonLimits] [FloatText] in
/-- A marker with what was only known once its corpus was there. -/
def plant (scenario : Scenario) (locations : Dict String (List PlantedLocation)) (marker : Marker) :
    Marker :=
  { marker with
    plantedLocations := locations.getD marker.markerId []
    embeddingRef := embeddingRefOf marker scenario.embeddingModels }

variable {ρ : Type} [RandomSource ρ]

omit [JsonLimits] [FloatText] in
/-- The markers of the tenant at an index, before they are planted. -/
def tenantMarkers (ρ : Type) [RandomSource ρ] (scenario : Scenario) (index sequence : Nat)
    (tenantSpec : SyntheticTenantSpec) : List Marker :=
  generateMarkers tenantSpec.tenantId sequence tenantSpec.users
    (deriveRng scenario.seed ["markers", toString index] : ρ)

omit [JsonLimits] [FloatText] in
/-- The documents and the planted markers of one tenant. -/
def buildTenant (ρ : Type) [RandomSource ρ] (scenario : Scenario) (index sequence : Nat)
    (tenantSpec : SyntheticTenantSpec) :
    Except SubstrateError (List CorpusDocument × List Marker) := do
  let markers := tenantMarkers ρ scenario index sequence tenantSpec
  let corpus ← generateCorpus tenantSpec
    (deriveRng scenario.seed ["corpus", toString index] : ρ) markers scenario.sharedEntities
  return (corpus.documents, markers.map (plant scenario corpus.locations))

omit [JsonLimits] [FloatText] in
/-- The loop of `build_substrate`, from the tenant at an index on. -/
def buildTenants (ρ : Type) [RandomSource ρ] (scenario : Scenario) :
    Nat → Nat → List SyntheticTenantSpec →
      Except SubstrateError (List CorpusDocument × List Marker)
  | _, _, [] => .ok ([], [])
  | index, sequence, tenantSpec :: others => do
    let (documents, markers) ← buildTenant ρ scenario index sequence tenantSpec
    let (moreDocuments, moreMarkers) ←
      buildTenants ρ scenario (index + 1) (sequence + markers.length) others
    return (documents ++ moreDocuments, markers ++ moreMarkers)

def buildSubstrate (ρ : Type) [RandomSource ρ] (scenario : Scenario) :
    Except SubstrateError Substrate := do
  let (documents, markers) ← buildTenants ρ scenario 0 0 scenario.tenants
  let manifest ← (buildManifest scenario markers).mapError .library
  return { scenario, tenants := scenario.tenants, documents, manifest }

end Build

end Sectum
