import Sct.Provision.Aws.AzResolver
import Sct.Provision.Aws.Layout

/-!
# The layout with its DB cluster and its zone resolver

The parts of a layout that moves of data centers rest on. Its cloud is the cluster object together
with EC2, which may answer the resolver differently at different times. The other clusters have
launched nothing yet when data centers move.
-/

open Sct.Effect

namespace Sct.Aws

structure DbInstance where
  /-- `_instance_region`: the region its client is bound to. -/
  region : String
  instanceId : String
  deriving DecidableEq, Repr

abbrev DbCloud (κ : Type) := ClusterState κ DbInstance

variable {κ ι : Type}

def Api.onCluster (api : Api κ) : Api (ClusterState κ ι) where
  getSsmAmi name region :=
    zoom ClusterState.cloud ClusterState.withCloud (api.getSsmAmi name region)
  getByOwnerAmi name region :=
    zoom ClusterState.cloud ClusterState.withCloud (api.getByOwnerAmi name region)
  newestImage account nameFilter name region :=
    zoom ClusterState.cloud ClusterState.withCloud (api.newestImage account nameFilter name region)
  findEquivalentAmi amiId sourceRegion region :=
    zoom ClusterState.cloud ClusterState.withCloud
      (api.findEquivalentAmi amiId sourceRegion region)
  cancelAllRegions testId :=
    zoom ClusterState.cloud ClusterState.withCloud (api.cancelAllRegions testId)
  terminateStrayInstances testId region :=
    zoom ClusterState.cloud ClusterState.withCloud (api.terminateStrayInstances testId region)
  deleteKmsAlias testId region :=
    zoom ClusterState.cloud ClusterState.withCloud (api.deleteKmsAlias testId region)
  forgetReservations state := state.withCloud (api.forgetReservations state.cloud)

/-- What the DB part of a layout is made of. -/
structure DbParts (κ : Type) where
  /-- The parameters of the DB cluster; those that place it are read from the settings. -/
  cluster : DbCluster
  resolver : ResolverConfig
  answers : κ → Ec2Answers
  ec2 : Ec2 κ DbInstance
  /-- `terminate_instances` of a region's client. -/
  terminateInstances : String → List String → EStateM Exc κ Unit

namespace DbParts

variable (parts : DbParts κ)

def clusterAt (settings : Settings) : DbCluster :=
  { parts.cluster with
    regionNames := settings.placement.configuredRegions
    availabilityZone := settings.placement.availabilityZone.getD "" }

/-- `db_cluster.provision`. -/
def provisionDb (skipRegionIds : List Nat) : Query (DbCloud κ) Unit := fun settings => do
  let _ ← (parts.clusterAt settings).provision parts.ec2 skipRegionIds
  pure ()

/-- `AZResolver.get_dc_fallback_candidates`. -/
def dcFallbackCandidates (dcIndex : Nat) : Query (DbCloud κ) (List Candidate) := fun settings => do
  let state ← get
  match getDcFallbackCandidates (parts.answers state.cloud) parts.resolver settings.placement
      dcIndex with
  | .ok candidates => pure candidates
  | .error exc => throw exc

/-- The loop of `_cleanup_dc_region`: a termination that fails is logged. -/
def terminateDcInstances (region : String) : Query (DbCloud κ) Unit := fun _ => do
  let state ← get
  let instanceIds := (state.provisionedInstances.filter fun launched =>
    decide (launched.region = region)).map DbInstance.instanceId
  if instanceIds ≠ [] then
    tryCatch (zoom ClusterState.cloud ClusterState.withCloud
      (parts.terminateInstances region instanceIds)) fun _ => pure ()
  modify fun state =>
    { state with
      provisionedInstances := state.provisionedInstances.filter fun launched =>
        decide (launched.region ≠ region) }

end DbParts

def Layout.withDb (layout : Layout (DbCloud κ)) (parts : DbParts κ) : Layout (DbCloud κ) :=
  { layout with
    getDcFallbackCandidates := parts.dcFallbackCandidates
    provisionDb := parts.provisionDb
    terminateDcInstances := parts.terminateDcInstances
    provisionedDbRegions := fun state => state.provisionedInstances.map DbInstance.region
    invalidateRegionDerivedCaches := id }

end Sct.Aws
