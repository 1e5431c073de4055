import Sct.Cleanup.Azure

/-!
# The cleaners

One function for each kind of resource. Most of them list the resources of some regions by their
tags and make a call for each, unless it is a dry run; they differ in which tags they filter by
and in whether a refused call ends the loop.
-/

namespace Sct.Cleanup

open Issued (All all_attempt all_check all_raise attempt check each retrying skipIf)

variable (world : World)

/-- `regions or all_aws_regions()`, and what is done with them. -/
def inRegions (regions : List String) (run : List String → Issued Call) : Issued Call :=
  if regions.isEmpty then
    match world.allAwsRegions with
    | none => .raise
    | some all => run all
  else run regions

/-- The resources of a kind in some regions that pass a filter; a region that cannot be listed is
skipped. -/
def listIn (kind : Kind) (keep : Resource → Bool) (regions : List String) : List Resource :=
  regions.eraseDups.flatMap fun region => ((world.listed kind region).getD []).filter keep

/-- `Filters=[{"Name": f"tag:{key}", "Values": …}]`. -/
def hasTags (tags : Tags) (resource : Resource) : Bool := carries resource.tagsDict tags

/-- Filters whose values are given one by one: a list is not accepted for a value. -/
def hasTexts (tags : Tags) (resource : Resource) : Bool :=
  tagged TagValue.equals resource.tagsDict tags

def call (action : Action) (kind : Kind) (resource : Resource) : Issued Call :=
  attempt world.refuses (.on action kind resource)

/-- A call on a resource, told to Argus. -/
def reportedCall (action : Action) (kind : Kind) (resource : Resource) : Issued Call :=
  (call world action kind resource).andThen (report world (.on action kind resource))

/-- `assert tags_dict`. -/
def assertTags (tags : Tags) : Issued Call := check (!tags.entries.isEmpty)

variable {world} {permits : Call → Prop} {regions : List String}

lemma all_inRegions {run : List String → Issued Call}
    (permitted : ∀ scanned, All permits (run scanned)) :
    All permits (inRegions world regions run) := by
  unfold inRegions
  split
  · split
    · exact all_raise
    · exact permitted _
  · exact permitted _

lemma all_assertTags (tags : Tags) : All permits (assertTags tags) := all_check _

variable {kind : Kind} {resource : Resource}

lemma all_reportedCall {action : Action} (permitted : permits (.on action kind resource)) :
    All permits (reportedCall world action kind resource) :=
  All.andThen (all_attempt permitted) (all_check _)

variable {keep : Resource → Bool}

lemma of_mem_listIn (found : resource ∈ listIn world kind keep regions) :
    keep resource = true := by
  obtain ⟨region, -, listed⟩ := List.mem_flatMap.mp found
  exact (List.mem_filter.mp listed).2

variable (world) (tags : Tags) (regions : List String) (dryRun : Bool)

/-! ## AWS -/

/-- The loop over the requests of one region of `clean_spot_fleet_requests_aws`. -/
def cancelFleetsIn (region : String) : Issued Call :=
  let active := ((world.listed .spotFleetRequest region).getD []).filter fun request =>
    ["submitted", "active", "modifying"].contains request.state && hasTags tags request
  if active.isEmpty then .nothing
  else skipIf dryRun (attempt world.refuses (.cancelFleets region active)).guarded

/-- `all_aws_regions(cached=True)`. -/
def cachedAwsRegions : List String :=
  ["eu-north-1", "ap-south-1", "eu-west-3", "eu-west-2", "eu-west-1", "ap-northeast-2",
    "ap-northeast-1", "sa-east-1", "ca-central-1", "ap-southeast-1", "ap-southeast-2",
    "eu-central-1", "us-east-1", "us-east-2", "us-west-1", "us-west-2"]

def cleanSpotFleetRequestsAws : Issued Call :=
  (assertTags tags).andThen <|
    each (cancelFleetsIn world tags dryRun)
      (if regions.isEmpty then cachedAwsRegions else regions)

def cleanInstancesAws : Issued Call :=
  (assertTags tags).andThen <| inRegions world regions fun scanned =>
    each (fun resource =>
        if resource.nodeType = some "sct-runner" then .nothing
        else skipIf dryRun (reportedCall world .terminate .awsInstance resource))
      (listIn world .awsInstance
        (fun resource => hasTags tags resource && resource.state != "terminated") scanned)

def cleanElasticIpsAws : Issued Call :=
  (assertTags tags).andThen <| inRegions world regions fun scanned =>
    each (fun eip =>
        (skipIf (!eip.attached || dryRun) (call world .disassociate .elasticIp eip)).andThen
          (skipIf dryRun (call world .release .elasticIp eip)))
      (listIn world .elasticIp (hasTags tags) scanned)

/-- A cleaner of AWS that deletes each resource found and goes on after a refusal. -/
def deleteEachIn (kind : Kind) (keep : Resource → Bool) (regions : List String) (dryRun : Bool) :
    Issued Call :=
  inRegions world regions fun scanned =>
    each (fun resource => skipIf dryRun (call world .delete kind resource).guarded)
      (listIn world kind keep scanned)

lemma all_deleteEachIn {regions : List String} {dryRun : Bool}
    (permitted : dryRun = false → ∀ resource, keep resource = true →
      permits (.on .delete kind resource)) :
    All permits (deleteEachIn world kind keep regions dryRun) := by
  apply all_inRegions
  intro scanned
  apply Issued.all_each
  intro resource found
  apply Issued.all_skipIf
  intro real
  exact (all_attempt (permitted real resource (of_mem_listIn found))).guarded

def cleanTestSecurityGroups : Issued Call :=
  (assertTags tags).andThen <|
    deleteEachIn world .securityGroup (hasTags tags.withoutNodeType) regions dryRun

def cleanLaunchTemplatesAws : Issued Call :=
  (assertTags tags).andThen <|
    deleteEachIn world .launchTemplate (hasTexts tags.withoutNodeType) regions dryRun

/-- `if "NodeType" in tags_dict and kind not in tags_dict.get("NodeType"): return`. -/
def unlessTypeMissing (nodeType : String) (run : Issued Call) : Issued Call :=
  match tags.get "NodeType" with
  | none => run
  | some value =>
    match value.holds nodeType with
    | none => .raise
    | some true => run
    | some false => .nothing

/-- The tags ask for a type, or for none. -/
def Asked (nodeType : String) : Prop :=
  ∀ value, tags.get "NodeType" = some value → value.holds nodeType = some true

lemma all_unlessTypeMissing {tags : Tags} {nodeType : String} {run : Issued Call}
    (permitted : Asked tags nodeType → All permits run) :
    All permits (unlessTypeMissing tags nodeType run) := by
  unfold unlessTypeMissing
  cases typed : tags.get "NodeType" with
  | none => exact permitted fun value given => nomatch typed.symm.trans given
  | some value =>
    dsimp only
    cases held : value.holds nodeType with
    | none => exact all_raise
    | some found =>
      cases found with
      | false => exact Issued.all_nothing
      | true =>
        apply permitted
        intro other given
        rw [← Option.some.inj (typed.symm.trans given), held]

def cleanLoadBalancersAws : Issued Call :=
  unlessTypeMissing tags "k8s" <| (assertTags tags).andThen <|
    deleteEachIn world .loadBalancer (hasTexts tags.withoutNodeType) regions dryRun

def cleanCloudformationStacksAws : Issued Call :=
  unlessTypeMissing tags "k8s" <| (assertTags tags).andThen <|
    deleteEachIn world .cloudformationStack (hasTexts tags.withoutNodeType) regions dryRun

/-- `clean_placement_groups_aws`, which is tried again after a refusal. -/
def cleanPlacementGroupsAws : Issued Call :=
  if tags.withoutNodeType.entries.isEmpty then .raise
  else retrying 30 <| inRegions world regions fun scanned =>
    each (fun group => skipIf dryRun (call world .delete .placementGroup group))
      (listIn world .placementGroup
        (fun group => hasTags tags.withoutNodeType group && group.state != "deleted") scanned)

def releaseByTags : Issued Call :=
  (assertTags tags.withoutNodeType).andThen <| inRegions world regions fun scanned =>
    each (fun host => skipIf dryRun (call world .release .dedicatedHost host))
      (listIn world .dedicatedHost (hasTags tags.withoutNodeType) scanned)

/-- `list_clusters_eks` before the filter: one region that cannot be listed leaves none. -/
def listClustersEks (regions : List String) : List Resource :=
  if regions.all fun region => (world.listed .eksCluster region).isSome then
    regions.flatMap fun region => (world.listed .eksCluster region).getD []
  else []

/-- `filter_gce_by_tags`: the given name is enough. -/
def nameOrTags (tags : Tags) (resource : Resource) : Bool :=
  (tags.get "Name").any (fun value => value.equals resource.name) || hasTags tags resource

def cleanClustersEks : Issued Call :=
  unlessTypeMissing tags "k8s" <| (assertTags tags).andThen <| inRegions world regions fun scanned =>
    each (fun cluster => skipIf dryRun (call world .delete .eksCluster cluster).guarded)
      ((listClustersEks world scanned).filter (nameOrTags tags.withoutNodeType))

/-- `clean_emr_clusters`: `list_emr_clusters` compares every value with the tag. -/
def cleanEmrClusters : Issued Call :=
  (assertTags tags).andThen <| inRegions world regions fun scanned =>
    each (fun region =>
        each (fun cluster =>
            skipIf dryRun (call world .terminate .emrCluster cluster).guarded)
          (((world.listed .emrCluster region).getD []).filter fun cluster =>
            ["STARTING", "BOOTSTRAPPING", "RUNNING", "WAITING"].contains cluster.state &&
              hasTexts tags cluster))
      scanned

/-- `clean_aws_kms_alias`: only for a list of node types one of which has `db` in it. -/
def cleanAwsKmsAlias : Issued Call :=
  inRegions world regions fun scanned =>
    let name := "alias/testid-" ++ ((tags.get "TestId").map TagValue.str).getD "TestIdNotFound"
    match (tags.get "NodeType").getD (.items []) with
    | .null => .raise
    | .text _ => .nothing
    | .items nodeTypes =>
      if nodeTypes.any fun nodeType => contains nodeType "db" then
        each (fun region => (attempt world.refuses (.deleteAlias region name)).guarded)
          scanned
      else .nothing

/-! ## GCE -/

def cleanInstancesGce : Issued Call :=
  (assertTags tags).andThen <|
    match world.listed .gceInstance "" with
    | none => .raise
    | some instances =>
      Issued.parallel (fun resource =>
          skipIf dryRun (reportedCall world .delete .gceInstance resource))
        (instances.filter fun resource => nameOrTags tags resource && resource.state == "RUNNING")

def cleanClustersGke : Issued Call :=
  unlessTypeMissing tags "k8s" <| (assertTags tags).andThen <|
    each (fun cluster => skipIf dryRun (call world .delete .gkeCluster cluster).guarded)
      (((world.listed .gkeCluster "").getD []).filter (nameOrTags tags.withoutNodeType))

def cleanOrphanedGkeDisks : Issued Call :=
  unlessTypeMissing tags "k8s" <| Issued.guarded <| skipIf dryRun <|
    each (fun zone =>
        attempt world.refuses (.deleteDisks zone ((world.listed .gkeDisk zone).getD [])))
      world.diskZones

/-! ## Docker and bare metal -/

/-- The label filter of `list_resources_docker`: of the node type only that there is one. -/
def hasLabels (resource : Resource) : Bool :=
  tags.entries.all fun entry =>
    if entry.1 = "NodeType" then resource.nodeType.isSome
    else resource.tagsDict.get entry.1 == some entry.2.str

/-- `label in values` for node types given in the tags. -/
def typeGiven (nodeTypes : TagValue) (container : Resource) : Bool :=
  container.nodeType.any fun nodeType => (nodeTypes.holds nodeType).getD false

def listResourcesDocker (docker : Docker) (tags : Tags) :
    Option (List Resource × List Resource) :=
  let labelled := docker.containers.filter (hasLabels tags)
  let images := docker.images.filter (hasLabels tags)
  let kept (containers : List Resource) := containers.filter fun container =>
    some container.id != docker.currentContainerId && container.state != "removing"
  match (tags.get "NodeType").filter TagValue.isTruthy with
  | none => some (kept labelled, images)
  | some nodeTypes =>
    if labelled.all docker.reloads then some (kept (labelled.filter (typeGiven nodeTypes)), images)
    else none

def cleanResourcesDocker : Issued Call :=
  (assertTags tags).andThen <|
    match world.docker with
    | none => .raise
    | some docker =>
      match listResourcesDocker docker tags with
      | none => .raise
      | some (containers, images) =>
        (each (fun container =>
            ((check (docker.reloads container)).andThen
              (skipIf dryRun (call world .delete .container container))).guarded)
          containers).andThen
        (each (fun image => skipIf dryRun (call world .delete .image image).guarded)
          images)

def baremetalHostsSections : List (String × String) :=
  [("scylla-db", "db_nodes"), ("loader", "loader_nodes"), ("monitor", "monitor_nodes")]

/-- The node types whose hosts are cleaned, each with its section. A text is gone over character by
character. -/
def baremetalSections : List (String × String) :=
  match tags.get "NodeType" with
  | none => baremetalHostsSections
  | some .null => baremetalHostsSections
  | some (.text _) => []
  | some (.items nodeTypes) => nodeTypes.filterMap fun nodeType =>
      (baremetalHostsSections.lookup nodeType).map fun part => (nodeType, part)

def cleanHosts (part : String × String) : Issued Call :=
  match world.baremetalHosts part.2 with
  | none => .raise
  | some addresses =>
    each (fun address => skipIf dryRun
      (attempt world.refuses (.cleanUpHost part.1 address))) addresses

def cleanResourcesBaremetal (config : Config) (tags : Tags) (dryRun : Bool) : Issued Call :=
  if (baremetalSections tags).isEmpty then .nothing
  else
    -- the containers of the tunnels go first
    (skipIf (!config.publicConnections) (cleanResourcesDocker world tags dryRun)).andThen
      (each (cleanHosts world dryRun) (baremetalSections tags))

/-! ## OCI -/

def supportedRegions : List String := ["us-ashburn-1", "us-phoenix-1", "eu-frankfurt-1"]

def ociKeepAction (resource : Resource) : String :=
  (((truthy (resource.tagsDict.get "keep_action")).getD "terminate").toLower)

/-- `keep_action in ("terminate", "")`. -/
def isTerminated (resource : Resource) : Bool :=
  ["terminate", ""].contains (ociKeepAction resource)

def cleanInstancesOci : Issued Call :=
  if tags.entries.isEmpty then .nothing
  else
    each (fun resource =>
        if resource.nodeType = some "sct-runner" then .nothing
        else if isTerminated resource then
          skipIf dryRun (reportedCall world .terminate .ociInstance resource).guarded
        else if resource.state = "RUNNING" then
          skipIf dryRun (call world .stop .ociInstance resource).guarded
        else .nothing)
      (listIn world .ociInstance (hasTags tags) supportedRegions)

/-- `delete_oci_volume_with_retry`: an attached volume is tried 60 times. -/
def deleteOciVolumeWithRetry (volume : Resource) : Issued Call :=
  let once := call world .delete .ociVolume volume
  (if volume.attached then retrying 60 once else once).guarded

def cleanOrphanBlockVolumesOci : Issued Call :=
  if tags.entries.isEmpty then .nothing
  else
    each (fun volume => skipIf dryRun (deleteOciVolumeWithRetry world volume))
      (listIn world .ociVolume
        (fun volume => volume.state == "AVAILABLE" && contains volume.name "-vol-" &&
          !volume.tags.isEmpty && hasTags tags volume && isTerminated volume) supportedRegions)

/-! ## Scylla Cloud -/

/-- The loop body of `cleanup_cluster_vpc_peering`. -/
def cleanupPeering (config : Config) (peering : Peering) : Issued Call :=
  let side : Issued Call :=
    if config.xcloudProvider.toLower = "aws" then
      each (fun route => (call world .delete .route route).guarded) peering.providerSide
    else if config.xcloudProvider.toLower = "gce" then
      each (fun other => call world .delete .networkPeering other) peering.providerSide
    else .nothing
  (check peering.described).andThen
    (side.guarded.andThen (call world .delete .cloudPeering peering.peering))

def cleanupClusterVpcPeering (config : Config) (cluster : Resource) : Issued Call :=
  match world.peerings cluster with
  | none => .nothing
  | some peerings => each (cleanupPeering world config) peerings

def cleanBlackholeRoutesAws (config : Config) (regions : List String) (dryRun : Bool) :
    Issued Call :=
  each (fun region =>
      match world.listed .route region with
      | none => .raise
      | some routes =>
        each (fun route => skipIf dryRun (call world .delete .route route))
          (routes.filter fun route => route.state == "blackhole" && world.inPool route))
    (if regions.isEmpty then [config.xcloudRegion] else regions)

/-- `clean_inactive_peerings_gce`: an operation in progress is waited for, five times in all. -/
def cleanInactivePeeringsGce (config : Config) (regions : List String) (dryRun : Bool) :
    Issued Call :=
  each (fun region =>
      match world.listed .networkPeering region with
      | none => .raise
      | some peerings =>
        each (fun peering => skipIf dryRun
            (if peering.attached then retrying 5 (call world .delete .networkPeering peering)
            else call world .delete .networkPeering peering))
          (peerings.filter fun peering => peering.state == "INACTIVE"))
    (if regions.isEmpty then [config.xcloudRegion] else regions)

/-- The first characters of the test id are in the name of a cluster. -/
def namedAfterTest (cluster : Resource) : Bool :=
  ((tags.get "TestId").filter TagValue.isTruthy).any fun testId =>
    contains cluster.name (String.ofList (testId.str.toList.take 8))

/-- The clusters of the account that `clean_clusters_scylla_cloud` deletes. -/
def deleteCloudClusters (config : Config) (tags : Tags) (clusters : List Resource)
    (dryRun : Bool) : Issued Call :=
  each (fun cluster => skipIf dryRun
      ((cleanupClusterVpcPeering world config cluster).andThen
        (reportedCall world .delete .cloudCluster cluster)).guarded)
    (clusters.filter (namedAfterTest tags))

/-- What `clean_clusters_scylla_cloud` cleans at the provider of the loaders and monitors. -/
def cleanProviderSide (config : Config) (tags : Tags) (dryRun : Bool) : Issued Call :=
  if config.xcloudProvider = "aws" then
    (cleanInstancesAws world tags config.regionNames dryRun).andThen <|
    (cleanElasticIpsAws world tags config.regionNames dryRun).andThen <|
    (cleanTestSecurityGroups world tags config.regionNames dryRun).andThen <|
    (cleanPlacementGroupsAws world tags config.regionNames dryRun).andThen <|
    cleanBlackholeRoutesAws world config config.regionNames dryRun
  else if config.xcloudProvider = "gce" then
    (cleanInstancesGce world tags dryRun).andThen <|
    cleanInactivePeeringsGce world config config.gceDatacenters dryRun
  else .nothing

def cleanClustersScyllaCloud (config : Config) (tags : Tags) (dryRun : Bool) : Issued Call :=
  (assertTags tags).andThen <| unlessTypeMissing tags "scylla-db" <|
    match world.listed .cloudCluster "" with
    | none => .raise
    | some clusters =>
      -- the early return skips the provider's side too
      if (clusters.filter (namedAfterTest tags)).isEmpty then .nothing
      else (deleteCloudClusters world config tags clusters dryRun).andThen
        (cleanProviderSide world config tags dryRun)

end Sct.Cleanup
