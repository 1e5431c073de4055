import Sct.Lib.RoundRobin
import Sct.Lib.Trace
import Sct.Provision.Placement

/-!
# The DB cluster on AWS

`DBCluster` of `sdcm/sct_provision/aws/cluster.py`. The nodes of a region are planned and spread over
the zones in turn, data nodes and zero-token nodes together. They are requested zone by zone in two
batches, whose sizes come from two deals of their own. A plan is a list of steps that launch on a
cloud of any type. Nothing reads the record of requests.
-/

open Sct.Effect

namespace Sct.Aws

abbrev Tags := String → Option String

/-- `tags | {key: value}`. -/
def Tags.set (tags : Tags) (key value : String) : Tags :=
  fun other => if other = key then some value else tags other

@[simp]
lemma Tags.set_self (tags : Tags) (key value : String) : tags.set key value key = some value :=
  if_pos rfl

/-- The value of a parameter that counts nodes. -/
inductive NodeNums where
  | single (num : Nat)
  | perRegion (nums : List Nat)
  deriving DecidableEq, Repr

namespace NodeNums

def toList : NodeNums → List Nat
  | single num => [num]
  | perRegion nums => nums

/-- What `not` of the value answers `False` for. -/
def truthy : NodeNums → Bool
  | single num => num ≠ 0
  | perRegion nums => !nums.isEmpty

end NodeNums

/-- The kinds of DB nodes; each has a builder of instance parameters of its own. -/
inductive NodeKind where
  | data
  | zeroToken
  deriving DecidableEq, Repr

structure ClusterNode where
  regionId : Nat
  azId : Nat
  nodeNum : Nat
  nodeNamePrefix : String
  deriving DecidableEq, Repr

def ClusterNode.name (node : ClusterNode) : String :=
  node.nodeNamePrefix ++ "-" ++ toString node.nodeNum

/-- The arguments of `provision_instances`, with the region and the zone they are for. -/
structure Request where
  regionId : Nat
  azId : Nat
  /-- Which builder made `instance_parameters`. -/
  kind : NodeKind
  nodeTags : List Tags
  nodeNames : List String
  nodeCount : Nat

structure DbCluster where
  regionNames : List String
  availabilityZone : String
  nDbNodes : NodeNums
  nDbZeroTokenNodes : NodeNums
  useZeroNodes : Bool
  userPrefix : String
  testId : String
  commonTags : Tags
  amiDbScyllaUser : String

namespace DbCluster

variable (cluster : DbCluster)

def shortId : String := String.ofList (cluster.testId.toList.take 8)

def nodePrefix : String := cluster.userPrefix ++ "-" ++ "db-node" ++ "-" ++ cluster.shortId

def tags : Tags :=
  (cluster.commonTags.set "NodeType" "scylla-db").set "UserName" cluster.amiDbScyllaUser

def azs : List String := splitOn ',' cluster.availabilityZone

def getDataNodes : List Nat := cluster.nDbNodes.toList

def getZeroTokenNodes : List Nat :=
  if !cluster.useZeroNodes || !cluster.nDbZeroTokenNodes.truthy then []
  else cluster.nDbZeroTokenNodes.toList

def nodeNums : List Nat :=
  if cluster.getZeroTokenNodes = [] then cluster.getDataNodes
  else List.zipWith (· + ·) cluster.getDataNodes cluster.getZeroTokenNodes

def activeRegionIds : List Nat :=
  (List.range cluster.regionNames.length).filter fun regionId =>
    decide (regionId < cluster.nodeNums.length ∧ cluster.nodeNums.getD regionId 0 > 0)

/-! ## The planned nodes -/

/-- One round of the inner loop of `nodes`: the nodes so far and the last number given. -/
def addNode (regionId : Nat) (planned : List ClusterNode × Nat) (idx : Nat) :
    List ClusterNode × Nat :=
  let nodeNum := planned.2 + 1
  (planned.1 ++ [⟨regionId, idx % cluster.azs.length, nodeNum, cluster.nodePrefix⟩], nodeNum)

/-- One round of the outer loop of `nodes`. -/
def addRegion (planned : List ClusterNode × Nat) (regionId : Nat) : List ClusterNode × Nat :=
  (List.range (cluster.nodeNums.getD regionId 0)).foldl (cluster.addNode regionId) planned

def nodes : List ClusterNode := (cluster.activeRegionIds.foldl cluster.addRegion ([], 0)).1

/-- `ClusterNode.tags`. -/
def nodeTags (node : ClusterNode) : Tags :=
  cluster.tags.set "NodeIndex" (toString node.nodeNum)

/-- The nodes of a zone of a region, as `_node_tags` and `_node_names` select them. -/
def nodesAt (regionId azId : Nat) : List ClusterNode :=
  cluster.nodes.filter fun node => decide (node.regionId = regionId ∧ node.azId = azId)

/-- `_az_nodes`: the numbers of data nodes and of zero-token nodes by zone. -/
def azNodes (regionId : Nat) : List Nat × List Nat :=
  (RoundRobin.deal cluster.azs.length (cluster.getDataNodes.getD regionId 0),
    if cluster.getZeroTokenNodes = [] then List.replicate cluster.azs.length 0
    else RoundRobin.deal cluster.azs.length (cluster.getZeroTokenNodes.getD regionId 0))

/-! ## Provisioning -/

def dataRequest (regionId azId nodeCount : Nat) : Request where
  regionId := regionId
  azId := azId
  kind := .data
  nodeTags := ((cluster.nodesAt regionId azId).map cluster.nodeTags).take nodeCount
  nodeNames := ((cluster.nodesAt regionId azId).map ClusterNode.name).take nodeCount
  nodeCount := nodeCount

/-- The request of a zone's zero-token nodes, the planned nodes after its data nodes. -/
def zeroTokenRequest (regionId azId nodeCount zeroNodeCount : Nat) : Request where
  regionId := regionId
  azId := azId
  kind := .zeroToken
  nodeTags := (((cluster.nodesAt regionId azId).map cluster.nodeTags).drop nodeCount).map
    (·.set "ZeroTokenNode" "True")
  nodeNames := ((cluster.nodesAt regionId azId).map ClusterNode.name).drop nodeCount
  nodeCount := zeroNodeCount

end DbCluster

/-- One way to launch the instances of a request. -/
abbrev ProvisionStep (κ ι : Type) := Request → EStateM Exc κ (List ι)

/-- `provision_plan`, of a region and a zone. -/
abbrev Ec2 (κ ι : Type) := String → String → List (ProvisionStep κ ι)

/-- Name the instances in their tags, as far as there are names. -/
def nameTags : List String → List Tags → List Tags
  | name :: names, tags :: rest => tags.set "Name" name :: nameTags names rest
  | _, rest => rest

variable {κ ι : Type}

def assertionError (message : String) : Exc := .raised (.other "AssertionError") message

/-- `AWSInstanceProvisioner.provision`. -/
def provisionInstanceStep (step : ProvisionStep κ ι) (request : Request) :
    EStateM Exc κ (List ι) :=
  if request.nodeNames ≠ [] ∧ request.nodeNames.length ≠ request.nodeCount then
    throw (assertionError "Names length should be equal to count")
  else if request.nodeTags.length ≠ request.nodeCount then
    throw (assertionError "Tags length should be equal to count")
  else step { request with nodeTags := nameTags request.nodeNames request.nodeTags }

/-- `ProvisionPlan.provision_instances`: the first step that launches something ends the plan. -/
def provisionInstances (request : Request) : List (ProvisionStep κ ι) → EStateM Exc κ (List ι)
  | [] => pure []
  | step :: rest => do
    let instances ← provisionInstanceStep step request
    if instances.isEmpty then provisionInstances request rest else pure instances

/-- What a cluster object and the cloud hold. -/
structure ClusterState (κ ι : Type) where
  cloud : κ
  provisionedInstances : List ι
  requests : List Request

def ClusterState.withCloud (cloud : κ) (state : ClusterState κ ι) : ClusterState κ ι :=
  { state with cloud := cloud }

namespace DbCluster

variable (cluster : DbCluster) (ec2 : Ec2 κ ι)

def region (regionId : Nat) : String := cluster.regionNames.getD regionId ""

/-- The launch a request asks for; a plan without a result is a lack of capacity. -/
def launch (request : Request) : EStateM Exc (ClusterState κ ι) (List ι) := do
  let plan := ec2 (cluster.region request.regionId) (cluster.azs.getD request.azId "")
  let instances ← zoom ClusterState.cloud ClusterState.withCloud (provisionInstances request plan)
  if instances.isEmpty then
    throw (.raised .provisioningCapacityExhausted
      "End of provision plan reached, but no instances provisioned")
  else pure instances

/-- Tag an error of the cloud with the region it concerns. -/
def attachFailedRegion (region : String) (exc : Exc) : Exc :=
  match exc.cls with
  | .clientError _ => { exc with failedRegion := some region }
  | .provisioningCapacityExhausted => { exc with failedRegion := some region }
  | _ => exc

def provisionAzInstances (request : Request) : EStateM Exc (ClusterState κ ι) Unit := do
  modify fun state => { state with requests := state.requests ++ [request] }
  let instances ← tryCatch (cluster.launch ec2 request) fun exc =>
    throw (attachFailedRegion (cluster.region request.regionId) exc)
  modify fun state =>
    { state with provisionedInstances := state.provisionedInstances ++ instances }

def provisionBatch (request : Request) : EStateM Exc (ClusterState κ ι) Unit :=
  if request.nodeCount ≠ 0 then cluster.provisionAzInstances ec2 request else pure ()

/-- One round of the inner loop of `provision`. -/
def provisionAz (regionId azId : Nat) : EStateM Exc (ClusterState κ ι) Unit := do
  let nodeCount := (cluster.azNodes regionId).1.getD azId 0
  let zeroNodeCount := (cluster.azNodes regionId).2.getD azId 0
  cluster.provisionBatch ec2 (cluster.dataRequest regionId azId nodeCount)
  cluster.provisionBatch ec2 (cluster.zeroTokenRequest regionId azId nodeCount zeroNodeCount)

/-- `provision`, without the regions of the given indices. -/
def provision (skipRegionIds : List Nat) : EStateM Exc (ClusterState κ ι) (List ι) :=
  if cluster.nodeNums = [0] then pure []
  else do
    forM cluster.activeRegionIds fun regionId =>
      if regionId ∉ skipRegionIds then
        forM (List.range cluster.azs.length) (cluster.provisionAz ec2 regionId)
      else pure ()
    pure (← get).provisionedInstances

end DbCluster

end Sct.Aws
