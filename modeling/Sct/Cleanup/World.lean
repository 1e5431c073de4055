import Sct.Lib.Dict
import Sct.Lib.Issued
import Sct.Lib.Words

/-!
# The resources a cleanup finds

What the clouds, the local Docker daemon and the account of Scylla Cloud hold when a cleanup
starts, how they answer, and the calls that delete, terminate, stop, cancel or release something.
Listings are given before any filter; the filters are those of the code. A resource taken away
by one step is still listed for the next.
-/

namespace Sct.Cleanup

/-- A value of `tags_dict`. -/
inductive TagValue where
  | null
  | text (value : String)
  | items (values : List String)
  deriving DecidableEq, Repr

namespace TagValue

/-- The value found is the one given, or one of those given. -/
def admits : TagValue → String → Bool
  | .null, _ => false
  | .text value, found => found == value
  | .items values, found => values.contains found

/-- The values found equal the one given; a list equals no text. -/
def equals : TagValue → String → Bool
  | .null, _ => false
  | .text value, found => found == value
  | .items _, _ => false

/-- `item in value`, which raises on `None`. -/
def holds : TagValue → String → Option Bool
  | .null, _ => none
  | .text value, item => some (contains value item)
  | .items values, item => some (values.contains item)

/-- `bool(value)`. -/
def isTruthy : TagValue → Bool
  | .null => false
  | .text value => value != ""
  | .items values => !values.isEmpty

def str : TagValue → String
  | .null => "None"
  | .text value => value
  | .items values => formatList values

end TagValue

/-- `tags_dict`. -/
abbrev Tags := Dict String TagValue

/-- `{key: value for key, value in tags_dict.items() if key != "NodeType"}`. -/
def Tags.withoutNodeType (tags : Tags) : Tags := tags.erase "NodeType"

/-- Every given tag is there with a value the test accepts. -/
def tagged (accepts : TagValue → String → Bool) (found : Dict String String) (tags : Tags) : Bool :=
  tags.entries.all fun entry => (found.get entry.1).any fun value => accepts entry.2 value

def carries (found : Dict String String) (tags : Tags) : Bool := tagged TagValue.admits found tags

inductive Kind where
  | eksCluster
  | launchTemplate
  | loadBalancer
  | cloudformationStack
  | gkeCluster
  | gkeDisk
  | emrCluster
  | spotFleetRequest
  | awsInstance
  | dedicatedHost
  | elasticIp
  | securityGroup
  | placementGroup
  | gceInstance
  | container
  | image
  | cloudCluster
  | cloudPeering
  | route
  | networkPeering
  | ociInstance
  | ociVolume
  deriving DecidableEq, Repr

structure Resource where
  id : String
  name : String
  /-- Tags, labels, metadata items or tags of the namespace `sct`. -/
  tags : List (String × String)
  state : String
  /-- An elastic IP is in use, a volume attached, a peering being worked on. -/
  attached : Bool
  deriving DecidableEq, Repr

/-- The dictionary of a list of tags, as `aws_tags_to_dict` builds it. -/
def Resource.tagsDict (resource : Resource) : Dict String String :=
  Dict.empty.setAll resource.tags

/-- `tags.get("NodeType")`. -/
def Resource.nodeType (resource : Resource) : Option String := resource.tagsDict.get "NodeType"

structure Reservation where
  id : String
  /-- The last character of `AvailabilityZone`. -/
  zoneLetter : String
  instanceType : String
  /-- The value of its tag `TestId`. -/
  testId : String
  deriving DecidableEq, Repr

structure Peering where
  peering : Resource
  /-- The details of the peering and of its cluster can be read. -/
  described : Bool
  /-- What the provider's side of the peering has: routes of AWS, or a network peering of GCE. -/
  providerSide : List Resource
  deriving DecidableEq, Repr

/-- What `_vm_to_instance` meets besides the tags. -/
inductive Conversion where
  | complete
  /-- The interface is not found: `KeyError`. -/
  | missing
  | raises
  deriving DecidableEq, Repr

structure Vm where
  name : String
  tags : List (String × String)
  provisioningState : String
  conversion : Conversion
  deriving DecidableEq, Repr

structure ResourceGroup where
  name : String
  location : String
  vms : List Vm
  deriving DecidableEq, Repr

/-- What a call on a listed resource does. -/
inductive Action where
  | delete
  | terminate
  | stop
  | release
  | disassociate
  deriving DecidableEq, Repr

inductive Call where
  | on (action : Action) (kind : Kind) (resource : Resource)
  /-- `cancel_spot_fleet_requests` with `TerminateInstances`. -/
  | cancelFleets (region : String) (requests : List Resource)
  | deleteDisks (zone : String) (disks : List Resource)
  | cancelReservation (region id : String)
  | deleteGroup (name : String)
  | deleteVm (group : String) (vm : Vm)
  /-- `delete_alias` of a KMS key. -/
  | deleteAlias (region name : String)
  /-- `os.remove` of the placement handed over between the stages of a run. -/
  | deleteResolvedPlacement (testId : TagValue)
  | cleanUpHost (nodeType address : String)
  deriving DecidableEq, Repr

structure Docker where
  containers : List Resource
  images : List Resource
  currentContainerId : Option String
  /-- `container.reload()` succeeds. -/
  reloads : Resource → Bool

structure World where
  /-- The listing of a kind in a region or zone, nothing if it fails. -/
  listed : Kind → String → Option (List Resource)
  /-- The active capacity reservations of a region, nothing if they cannot be described. -/
  reservations : String → Option (List Reservation)
  /-- `all_aws_regions()`, nothing if it raises. -/
  allAwsRegions : Option (List String)
  /-- The resource groups of Azure, nothing if they cannot be listed. -/
  resourceGroups : Option (List ResourceGroup)
  unreachable : String → Bool
  docker : Option Docker
  /-- The addresses of a section of the bare-metal hosts config, nothing if it cannot be read. -/
  baremetalHosts : String → Option (List String)
  /-- The peerings of a Scylla Cloud cluster, nothing if they cannot be listed. -/
  peerings : Resource → Option (List Peering)
  /-- The types of the nodes that go when a cluster of Kubernetes or Scylla Cloud is deleted. -/
  nodeTypesOf : Resource → List String
  diskZones : List String
  /-- The destination of a route is in the pool of `xcloud_vpc_peering`. -/
  inPool : Resource → Bool
  refuses : Call → Bool
  unreported : Call → Bool

/-- Nothing exists, every service answers and accepts every call. -/
def World.bare : World where
  listed _ _ := some []
  reservations _ := some []
  allAwsRegions := some []
  resourceGroups := some []
  unreachable _ := false
  docker := some ⟨[], [], none, fun _ => true⟩
  baremetalHosts _ := some []
  peerings _ := some []
  nodeTypesOf _ := []
  diskZones := []
  inPool _ := false
  refuses _ := false
  unreported _ := false

structure Config where
  clusterBackend : String
  regionNames : List String
  fallbackToNextRegion : Bool
  azureRegionName : List String
  gceDatacenters : List String
  testId : String
  /-- `ip_ssh_connections` is `public`. -/
  publicConnections : Bool
  xcloudProvider : String
  xcloudRegion : String
  postBehavior : String → Option String
  dbType : String

structure Settings where
  availabilityZone : Option String
  /-- `SCTCapacityReservation.reservations`: ids by zone letter and instance type. -/
  reservations : Dict String (Dict String String)

end Sct.Cleanup
