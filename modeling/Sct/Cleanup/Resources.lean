import Mathlib.Data.List.Sort
import Sct.Cleanup.Cleaners
import Sct.Provision.Placement

/-!
# Cleaning all resources

`clean_cloud_resources` runs the cleaners of the configured backend one after another, each on its
own, and `clean_resources_according_post_behavior` calls it with the node types that the post
behaviours leave to clean. The step of the capacity reservations also writes the parameters and
the reservations kept on the class.
-/

namespace Sct.Cleanup

variable (world : World)

/-! ## Capacity reservations -/

/-- The active reservations of a test in a region. -/
def activeReservations (testId region : String) : Option (List Reservation) :=
  (world.reservations region).map fun found =>
    found.filter fun reservation => reservation.testId == testId

/-- The ids that `SCTCapacityReservation.reservations` holds. -/
def Settings.reservationIds (settings : Settings) : List String :=
  settings.reservations.entries.flatMap fun zone => zone.2.entries.map Prod.snd

/-- `result[availability_zone][instance_type] = reservation["CapacityReservationId"]`. -/
def recordReservation (result : Dict String (Dict String String)) (reservation : Reservation) :
    Dict String (Dict String String) :=
  result.set reservation.zoneLetter
    (((result.get reservation.zoneLetter).getD .empty).set reservation.instanceType reservation.id)

def getCrFromAws (config : Config) (settings : Settings) : Option Settings :=
  if config.testId = "" then some settings
  else
    match activeReservations world config.testId (config.regionNames.headD "") with
    | none => none
    | some found => some {
        -- the zone of the last one found replaces the configured zone
        availabilityZone := (found.getLast?.map Reservation.zoneLetter).or settings.availabilityZone
        reservations := found.foldl recordReservation .empty }

def cancelReservations (region : String) (ids : List String) : Issued Call :=
  Issued.each (fun id => (Issued.attempt world.refuses (.cancelReservation region id)).guarded) ids

/-- `SCTCapacityReservation.cancel`. -/
def cancelReserved (config : Config) (settings : Settings) : Issued Call × Settings :=
  if settings.reservations.entries.isEmpty then (.nothing, settings)
  else (cancelReservations world (config.regionNames.headD "") settings.reservationIds,
    { settings with reservations := .empty })

def cancelAllRegions (testId : String) : Issued Call :=
  match world.allAwsRegions with
  | none => .raise
  | some regions =>
    if testId = "" then .nothing
    else Issued.each (fun region => cancelReservations world region
      (((activeReservations world testId region).getD []).map Reservation.id)) regions

/-- The reservations of the configured region, or of all of them when none is configured. -/
def cancelConfigured (config : Config) (settings : Settings) : Issued Call × Settings :=
  if config.regionNames.isEmpty then (cancelAllRegions world config.testId, settings)
  else
    match getCrFromAws world config settings with
    | none => (.raise, settings)
    | some fetched => cancelReserved world config fetched

/-- The step of the capacity reservations of `clean_cloud_resources`. -/
def cleanCapacityReservations (config : Config) (dryRun : Bool) (settings : Settings) :
    Issued Call × Settings :=
  let first := cancelConfigured world config settings
  (first.1.andThen (Issued.skipIf (dryRun || config.testId == "")
    (cancelAllRegions world config.testId)), first.2)

/-! ## All steps -/

def awsRegions (config : Config) : List String :=
  if config.fallbackToNextRegion then
    (awsSupportedRegions ++ config.regionNames).dedup.insertionSort (· ≤ ·)
  else config.regionNames

variable (config : Config) (tags : Tags) (dryRun : Bool)

def forBackends (backends : List String) (steps : List (Issued Call)) : List (Issued Call) :=
  if backends.contains config.clusterBackend then steps else []

def stepsBefore : List (Issued Call) :=
  let regions := awsRegions config
  forBackends config ["k8s-eks", ""]
    [cleanClustersEks world tags regions dryRun,
      cleanLaunchTemplatesAws world tags regions dryRun,
      cleanLoadBalancersAws world tags regions dryRun,
      cleanCloudformationStacksAws world tags regions dryRun] ++
  forBackends config ["k8s-gke", ""]
    [cleanClustersGke world tags dryRun, cleanOrphanedGkeDisks world tags dryRun] ++
  forBackends config ["aws", ""] [cleanEmrClusters world tags regions dryRun] ++
  forBackends config ["aws", "k8s-eks", ""]
    [cleanSpotFleetRequestsAws world tags regions dryRun,
      cleanInstancesAws world tags regions dryRun]

def cleanResolvedPlacement : Issued Call :=
  match (tags.get "TestId").filter TagValue.isTruthy with
  | none => .nothing
  | some testId =>
    Issued.skipIf dryRun (Issued.attempt world.refuses (.deleteResolvedPlacement testId))

def stepsAfter : List (Issued Call) :=
  let regions := awsRegions config
  forBackends config ["aws", "k8s-eks", ""]
    [releaseByTags world tags regions dryRun,
      cleanElasticIpsAws world tags regions dryRun,
      cleanTestSecurityGroups world tags regions dryRun,
      cleanPlacementGroupsAws world tags regions dryRun,
      Issued.skipIf (config.clusterBackend != "aws" || dryRun)
        (cleanAwsKmsAlias world tags regions),
      cleanResolvedPlacement world tags dryRun] ++
  forBackends config ["gce", "k8s-gke", ""] [cleanInstancesGce world tags dryRun] ++
  forBackends config ["azure", ""] [cleanInstancesAzure world tags config.azureRegionName dryRun] ++
  [cleanResourcesDocker world tags dryRun] ++
  forBackends config ["xcloud"] [cleanClustersScyllaCloud world config tags dryRun] ++
  forBackends config ["oci", ""]
    [cleanInstancesOci world tags dryRun, cleanOrphanBlockVolumesOci world tags dryRun]

/-- `with cleanup_step(…)` around each step. -/
def runSteps (steps : List (Issued Call)) : Issued Call := Issued.each Issued.guarded steps

lemma all_runSteps_iff {permits : Call → Prop} {steps : List (Issued Call)} :
    Issued.All permits (runSteps steps) ↔ ∀ step ∈ steps, Issued.All permits step := by
  constructor
  · intro all step listed
    constructor
    intro call issued
    apply all.permits_of_mem
    exact (Issued.mem_calls_each_of_quiet fun _ _ => rfl).mpr ⟨step, listed, issued⟩
  · intro each
    apply Issued.all_each
    intro step listed
    exact (each step listed).guarded

lemma forall_mem_forBackends_iff {config : Config} {backends : List String}
    {steps : List (Issued Call)} {holds : Issued Call → Prop} :
    (∀ step ∈ forBackends config backends steps, holds step) ↔
      (config.clusterBackend ∈ backends → ∀ step ∈ steps, holds step) := by
  unfold forBackends
  by_cases listed : config.clusterBackend ∈ backends
  · simp [listed]
  · simp [listed]

/-- What `clean_cloud_resources` returns. -/
inductive Returned where
  | completed
  /-- `False`: neither `TestId` nor `RunByUser`. -/
  | missingTags
  /-- `None`: a local K8S backend. -/
  | localK8s
  | raised
  deriving DecidableEq, Repr

structure Outcome where
  calls : List Call
  returned : Returned
  /-- What it leaves in the parameters and on the class. -/
  settings : Settings

/-- The step of the capacity reservations, for the backends that have it. -/
def reservationStep (settings : Settings) : Issued Call × Settings :=
  if ["aws", "k8s-eks", ""].contains config.clusterBackend then
    cleanCapacityReservations world config dryRun settings
  else (.nothing, settings)

def cleanCloudResources (settings : Settings) : Outcome :=
  if "TestId" ∉ tags ∧ "RunByUser" ∉ tags then ⟨[], .missingTags, settings⟩
  else if startsWith config.clusterBackend "k8s-local" then ⟨[], .localK8s, settings⟩
  else if config.clusterBackend = "baremetal" then
    let run := cleanResourcesBaremetal world config tags dryRun
    ⟨run.calls, if run.raised then .raised else .completed, settings⟩
  else
    let reserved := reservationStep world config dryRun settings
    ⟨(runSteps (stepsBefore world config tags dryRun)).calls ++ reserved.1.calls ++
      (runSteps (stepsAfter world config tags dryRun)).calls, .completed, reserved.2⟩

/-! ## Post behaviours -/

/-- An entry of `get_post_behavior_actions`. -/
structure BehaviorAction where
  /-- The key, as in `post_behavior_{key}`. -/
  key : String
  nodeTypes : List String
  action : Option String

def dbNodeTypes (dbType : String) : List String :=
  if dbType = "cassandra" then ["cs-db"]
  else if dbType = "mixed" then ["scylla-db", "cs-db"]
  else if dbType = "mixed_scylla" ∨ dbType = "mixed_cassandra" then ["scylla-db", "oracle-db"]
  else ["scylla-db"]

def getPostBehaviorActions : List BehaviorAction :=
  [⟨"db_nodes", dbNodeTypes config.dbType, config.postBehavior "db_nodes"⟩,
    ⟨"monitor_nodes", ["monitor"], config.postBehavior "monitor_nodes"⟩,
    ⟨"loader_nodes", ["loader"], config.postBehavior "loader_nodes"⟩,
    ⟨"vector_store_nodes", ["vector-store"], config.postBehavior "vector_store_nodes"⟩,
    ⟨"k8s_cluster", ["k8s"], config.postBehavior "k8s_cluster"⟩,
    ⟨"emr_cluster", ["emr"], config.postBehavior "emr_cluster"⟩]

def isScheduled (criticalEvents : Bool) (action : Option String) : Bool :=
  action == some "destroy" || (action == some "keep-on-failure" && !criticalEvents)

def nodeTypesToCleanup (criticalEvents : Bool) : List String :=
  (getPostBehaviorActions config).flatMap fun entry =>
    if isScheduled criticalEvents entry.action then entry.nodeTypes else []

/-- `clean_resources_according_post_behavior`; `get_testrun_status` says whether the run left
critical events. -/
def cleanResourcesAccordingPostBehavior (criticalEvents : Bool) (params : Tags)
    (settings : Settings) : Outcome :=
  cleanCloudResources world config
    (params.set "NodeType" (.items (nodeTypesToCleanup config criticalEvents))) dryRun settings

end Sct.Cleanup
