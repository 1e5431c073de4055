import Sct.Lib.Dict

/-!
# Dedicated hosts on AWS

`SCTDedicatedHosts` of `sdcm/provision/aws/dedicated_host.py`. The class keeps a table of hosts by
zone and instance type. What EC2 answers is given with each call: the hosts it describes, in its own
order, the zones that support the instance type, and in which of them it allocates a host. Hosts
are released when asked for. Of the tags of a host only the test id is kept.
-/

namespace Sct.DedicatedHost

structure Host where
  hostId : String
  availabilityZone : String
  instanceType : String
  testId : String
  deriving DecidableEq, Repr

/-- The table `hosts`, the setting `KEEP_ALIVE_DEDICATED_HOST` and the hosts that are allocated. -/
structure State where
  hosts : Dict String (Dict String String)
  keepAlive : Bool
  allocated : List Host

def getHost (state : State) (availabilityZone instanceType : String) : Option String :=
  ((state.hosts.get availabilityZone).getD Dict.empty).get instanceType

/-- The parameters that are read; a text that is not set is empty. -/
structure Params where
  clusterBackend : String
  testId : String
  reuseCluster : String
  instanceTypeDb : String
  useDedicatedHost : Bool
  instanceProvision : String
  postBehaviorDedicatedHost : String
  awsDedicatedHostIds : List String
  availabilityZone : String
  deriving DecidableEq, Repr

def isDedicatedHostsEnabled (params : Params) : Bool :=
  params.clusterBackend == "aws" && (params.testId != "" || params.reuseCluster != "") &&
    params.instanceTypeDb != "" && params.useDedicatedHost &&
    params.instanceProvision == "on_demand"

/-- What EC2 answers to a call of `reserve`. -/
structure Answers where
  /-- The available ones of the hosts that match the filter, as `describe_hosts` lists them. -/
  describes : List Host → List Host
  described : ∀ hosts, describes hosts ⊆ hosts
  /-- `_get_supported_availability_zones`, for the zone to start with. -/
  zones : String → List String
  /-- The host `allocate` gets in a zone. -/
  allocates : String → Option String

/-- `text[-1]`. -/
def lastLetter (text : String) : String := String.ofList (text.toList.drop (text.length - 1))

/-- The hosts `reserve` looks for: those it is given, or those of the test. -/
def isWanted (params : Params) (testId : String) (host : Host) : Bool :=
  if params.awsDedicatedHostIds = [] then host.testId == testId
  else params.awsDedicatedHostIds.contains host.hostId

/-- `cls.hosts[availability_zone] = {instance_type: host_id}`. -/
def State.keep (state : State) (host : Host) : State :=
  { state with
    hosts := state.hosts.set host.availabilityZone (Dict.empty.set host.instanceType host.hostId) }

/-- The loop of `reserve` over the zones. -/
def allocateIn (params : Params) (answers : Answers) (testId : String) :
    List String → State → Option Params × State
  | [], state => (none, state)
  | zone :: rest, state =>
    match answers.allocates zone with
    | none => allocateIn params answers testId rest state
    | some hostId =>
      let host : Host := ⟨hostId, zone, params.instanceTypeDb, testId⟩
      (some { params with availabilityZone := lastLetter zone },
        { state with allocated := state.allocated ++ [host] }.keep host)

/-- `reserve`: the parameters it leaves, `none` if it raises. -/
def reserve (params : Params) (answers : Answers) (state : State) : Option Params × State :=
  if isDedicatedHostsEnabled params then
    let state := { state with keepAlive := params.postBehaviorDedicatedHost == "keep" }
    let testId := if params.reuseCluster = "" then params.testId else params.reuseCluster
    match answers.describes (state.allocated.filter (isWanted params testId)) with
    | host :: _ =>
      (some { params with availabilityZone := lastLetter host.availabilityZone }, state.keep host)
    | [] => allocateIn params answers testId (answers.zones params.availabilityZone) state
  else (some params, state)

def State.hostIds (state : State) : List String :=
  state.hosts.entries.flatMap fun zone => zone.2.entries.map Prod.snd

def releaseHosts (hostIds : List String) (state : State) : State :=
  { state with allocated := state.allocated.filter fun host => !hostIds.contains host.hostId }

/-- `release`. It ends with `cls.reservations = {}`, an attribute of another class. -/
def release (state : State) : State :=
  if state.hostIds = [] ∨ state.keepAlive then state else releaseHosts state.hostIds state

/-- `release_by_tags`, for the hosts that carry the tags. -/
def releaseByTags (tagged : List String) (dryRun : Bool) (state : State) : State :=
  if dryRun then state else releaseHosts tagged state

/-- A call of one of the class methods. -/
inductive Call where
  | reserve (params : Params) (answers : Answers)
  | release
  | releaseByTags (tagged : List String) (dryRun : Bool)

def step (state : State) : Call → State
  | .reserve params answers => (DedicatedHost.reserve params answers state).2
  | .release => DedicatedHost.release state
  | .releaseByTags tagged dryRun => DedicatedHost.releaseByTags tagged dryRun state

def run (state : State) (calls : List Call) : State := calls.foldl step state

end Sct.DedicatedHost
