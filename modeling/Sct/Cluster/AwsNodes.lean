import Mathlib.Data.List.Sort
import Mathlib.Data.String.Basic
import Sct.Lib.Dict
import Sct.Provision.Placement

/-!
# Nodes of a cluster on AWS

`AWSCluster.add_nodes` of `sdcm/cluster_aws.py`. The nodes asked for are split over the racks; the
instances of a rack are created in its zone, or taken from those the test already has there. They
are found by their tags, which a spot request leaves to the node that is made of the instance.
What EC2 answers to a batch is an input.
-/

namespace Sct.AwsNodes

/-- The values of `instance_provision` a configuration accepts. -/
inductive InstanceProvision where
  | spot
  | onDemand
  | spotFleet
  deriving DecidableEq, Repr

structure Instance where
  region : String
  zone : String
  /-- Whether it has the tags `TestId` and `NodeType` of the cluster. -/
  listed : Bool
  /-- Its tag `NodeIndex`. -/
  nodeIndex : Option String
  deriving DecidableEq, Repr

/-- `AWSNode`. -/
structure Node where
  instanceId : Nat
  nodeIndex : Nat
  dcIdx : Nat
  rack : Nat
  deriving DecidableEq, Repr

/-- What becomes of the spot requests of a batch. -/
inductive SpotAnswer where
  | granted
  /-- One of them ends in an exception, with this many instances started. -/
  | refused (started : Nat) (exc : Exc)
  deriving DecidableEq, Repr

/-- What EC2 answers to a batch of instances. -/
structure Answer where
  spot : SpotAnswer
  /-- To a launch on demand: the exception it raises, if any. -/
  onDemand : Option Exc
  deriving DecidableEq, Repr

structure Settings where
  testId : String
  regionNames : List String
  availabilityZone : String
  /-- The zones of `_ec2_subnet_id`, by datacenter and rack. -/
  subnetZones : List (List String)
  simulatedRacks : Nat
  simulatedRegions : Bool
  reuseCluster : Bool
  instanceProvision : InstanceProvision
  fallbackOnDemand : Bool
  deriving DecidableEq, Repr

structure ClusterState where
  instances : Dict Nat Instance
  nodes : List Node
  nodeIndex : Nat
  batches : Nat
  answers : Nat → Answer
  unreachable : List String

namespace Settings

variable (settings : Settings)

def racksCount : Nat :=
  if settings.simulatedRacks ≠ 0 then settings.simulatedRacks
  else if settings.availabilityZone = "" then 1
  else (splitOn ',' settings.availabilityZone).length

/-- The zones of `availability_zone`. -/
def configuredLetters : List String :=
  ((splitOn ',' settings.availabilityZone).map strip).filter (fun letter => letter ≠ "")

/-- The zone of the subnet of a rack. -/
def rackZone (dcIdx azIdx : Nat) : Option String := settings.subnetZones[dcIdx]?.bind (·[azIdx]?)

def instanceDc (dcIdx : Nat) : Nat := if settings.simulatedRegions then 0 else dcIdx

def instanceAz (rack : Option Nat) : Option Nat :=
  if settings.simulatedRacks ≠ 0 then some 0 else rack

def region (dcIdx : Nat) : String := settings.regionNames.getD dcIdx ""

def rackDistribution (count : Nat) (rack : Option Nat) : List Nat :=
  match settings.instanceAz rack with
  | none => (List.range settings.racksCount).map fun i =>
      if i < count % settings.racksCount then count / settings.racksCount + 1
      else count / settings.racksCount
  | some az => (List.range settings.racksCount).map fun i => if i = az then count else 0

/-- The racks that get instances and how many each. -/
def rackDemands (count : Nat) (rack : Option Nat) : List (Nat × Nat) :=
  (settings.rackDistribution count rack).zipIdx.filterMap fun demand =>
    if demand.1 = 0 then none else some (demand.2, demand.1)

/-- `ordered_letters`: the zones of the listed instances, those configured first. -/
def orderedLetters (zones : List String) : List String :=
  (settings.configuredLetters ++ (zones.dedup.filter
    fun letter => letter ∉ settings.configuredLetters).insertionSort (· ≤ ·)).filter (· ∈ zones)

end Settings

namespace ClusterState

def freshId (state : ClusterState) : Nat :=
  (state.instances.keys ++ state.nodes.map Node.instanceId).foldr max 0 + 1

def freshIds (state : ClusterState) (count : Nat) : List Nat := List.range' state.freshId count

def start (state : ClusterState) (count : Nat) (made : Instance) : ClusterState :=
  { state with
    instances := state.instances.setAll ((state.freshIds count).map fun id => (id, made)) }

/-- The instances of the cluster that `list_instances_aws` finds in a region. -/
def listing (state : ClusterState) (region : String) : List (Nat × Instance) :=
  state.instances.entries.filter fun entry => decide (entry.2.region = region) && entry.2.listed

def zones (state : ClusterState) (region : String) : List String :=
  (state.listing region).map fun entry => entry.2.zone

/-- Whether `_create_or_find_instances` knows a node of the rack. -/
def occupied (settings : Settings) (state : ClusterState) (dcIdx azIdx : Nat) : Bool :=
  state.nodes.any fun node =>
    decide (node.dcIdx = dcIdx) && (decide (node.rack = azIdx) || settings.simulatedRacks ≠ 0)

end ClusterState

/-- The key of `sort_by_index`. -/
def sortByIndex (entry : Nat × Instance) : String := entry.2.nodeIndex.getD "0"

variable (settings : Settings) (answer : Answer)

def createOnDemandInstances (count : Nat) (region zone : String) :
    EStateM Exc ClusterState (List Nat) :=
  match answer.onDemand with
  | some exc => throw exc
  | none => do
    let state ← get
    set (state.start count ⟨region, zone, true, none⟩)
    pure (state.freshIds count)

def createSpotInstances (count : Nat) (region zone : String) :
    EStateM Exc ClusterState (List Nat) := do
  let fleet := decide (settings.instanceProvision = .spotFleet) && decide (count > 1)
  let state ← get
  match answer.spot with
  | .granted =>
    set (state.start count ⟨region, zone, fleet, none⟩)
    pure (state.freshIds count)
  | .refused started exc =>
    set (state.start (min started count) ⟨region, zone, fleet, none⟩)
    throw exc

def checkSpotError (exc : Exc) : Bool :=
  contains exc.message "MaxSpotInstanceCountExceeded" ||
    contains exc.message "spotInstanceCountLimitExceeded" ||
    contains exc.message "capacity-not-available" ||
    contains exc.message "price-too-low" ||
    contains exc.message "error"

/-- The exceptions `fallback_provision_type` handles. -/
def isProvisionError (exc : Exc) : Bool :=
  match exc.cls with
  | .clientError _ => true
  | .other name => decide (name = "CreateSpotInstancesError")
  | _ => false

def fallbackProvisionType (count : Nat) (region zone : String) :
    EStateM Exc ClusterState (List Nat) :=
  tryCatch (createSpotInstances settings answer count region zone) fun exc =>
    if isProvisionError exc && settings.fallbackOnDemand && checkSpotError exc then
      createOnDemandInstances answer count region zone
    else throw exc

def createInstances (count dcIdx azIdx : Nat) : EStateM Exc ClusterState (List Nat) :=
  if count = 0 then pure []
  else
    match settings.rackZone dcIdx azIdx, settings.regionNames[dcIdx]? with
    | some zone, some region => do
      let state ← get
      set { state with batches := state.batches + 1 }
      let answer := state.answers state.batches
      if settings.instanceProvision = .onDemand then
        createOnDemandInstances answer count region zone
      else if settings.instanceProvision = .spotFleet ∧ count > 1 then
        createSpotInstances settings answer count region zone
      else fallbackProvisionType settings answer count region zone
    | _, _ => throw indexError

/-- `_get_instances`, of a zone. An empty listing has no zones. -/
def getInstances (dcIdx azIdx : Nat) : EStateM Exc ClusterState (List Nat) :=
  if settings.testId = "" then
    throw (.raised .valueError "test_id should be configured for using reuse_cluster")
  else
    match settings.regionNames[dcIdx]? with
    | none => throw indexError
    | some region => do
      let state ← get
      if region ∈ state.unreachable then throw (.raised (.other "KeyError") region)
      else
        match (settings.orderedLetters (state.zones region))[azIdx]? with
        | none => pure []
        | some letter =>
          let found := (state.listing region).filter fun entry => decide (entry.2.zone = letter)
          pure ((found.insertionSort fun left right => sortByIndex left ≤ sortByIndex right).map
            Prod.fst)

def createOrFindInstances (count dcIdx azIdx : Nat) :
    EStateM Exc ClusterState (List Nat) := do
  if (← get).occupied settings dcIdx azIdx then createInstances settings count dcIdx azIdx
  else
    let found ← getInstances settings dcIdx azIdx
    if settings.reuseCluster then
      if found.length = count then pure found
      else throw (.raised (.other "AssertionError")
        s!"Found {found.length} instances, while expect {count}")
    else if found.isEmpty then createInstances settings count dcIdx azIdx
    else if found.length < count then
      throw (.raised .provisionError
        (s!"Found only {found.length} pre-provisioned instance(s) but {count} were requested " ++
          s!"for dc_idx={dcIdx}, az_idx={azIdx}. The pre-provisioning step may have partially failed."))
    else pure found

/-- The loop of `add_nodes` over the racks. -/
def gatherInstances (settings : Settings) (dcIdx : Nat) :
    List (Nat × Nat) → EStateM Exc ClusterState (List Nat)
  | [] => pure []
  | (azIdx, count) :: rest => do
    let found ← createOrFindInstances settings count dcIdx azIdx
    let more ← gatherInstances settings dcIdx rest
    pure (found ++ more)

def makeNodes (nodeIndex dcIdx : Nat) (rack : Option Nat) (gathered : List Nat) : List Node :=
  gathered.zipIdx.map fun entry =>
    { instanceId := entry.1
      nodeIndex := nodeIndex + entry.2 + 1
      dcIdx := dcIdx
      rack := rack.getD (entry.2 % settings.racksCount) }

/-- The tags a new node writes on its instance. -/
def tagInstance (instances : Dict Nat Instance) (node : Node) : Dict Nat Instance :=
  match instances.get node.instanceId with
  | none => instances
  | some made => instances.set node.instanceId
      { made with listed := true, nodeIndex := some (toString node.nodeIndex) }

def ClusterState.join (state : ClusterState) (made : List Node) : ClusterState :=
  { state with
    nodes := state.nodes ++ made
    nodeIndex := state.nodeIndex + made.length
    instances := if settings.reuseCluster then state.instances
      else made.foldl tagInstance state.instances }

def addNodes (count dcIdx : Nat) (rack : Option Nat) : EStateM Exc ClusterState (List Node) :=
  if count = 0 then pure []
  else do
    let gathered ← gatherInstances settings (settings.instanceDc dcIdx)
      (settings.rackDemands count rack)
    let state ← get
    let after := state.join settings
      (makeNodes settings state.nodeIndex dcIdx rack gathered)
    set after
    pure (after.nodes.drop (after.nodes.length - count))

end Sct.AwsNodes
