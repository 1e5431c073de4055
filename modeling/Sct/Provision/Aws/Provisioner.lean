import Sct.Provision.Aws.Cluster

/-!
# Launching instances on AWS

The two steps of a provision plan, `_provision_spot_instances` and `_provision_on_demand_instances`
of `sdcm/provision/aws/provisioner.py`, and the loop of `sdcm/provision/aws/utils.py` that waits for
a spot request. What EC2 answers to each request is an input; it reports no more instances than were
asked for, and a launch on demand starts all or none. A machine is known by its place among those
started.
-/

namespace Sct.Aws

def spotCntLimit : Nat := 10

def spotFleetLimit : Nat := 500

/-- How often a request is looked at: `SPOT_REQUEST_TIMEOUT` over `SPOT_REQUEST_WAITING_TIME`. -/
def spotRequestPolls : Nat := 60

inductive RequestStatus where
  | fulfilled
  | hopeless
  | waiting
  deriving DecidableEq, Repr

inductive Poll where
  | failed
  /-- The statuses of the spot requests, one for each instance. -/
  | spot (requests : List RequestStatus)
  /-- The status of the fleet, and how many active instances describing them gives, if it does. -/
  | fleet (status : RequestStatus) (active : Option Nat)
  deriving DecidableEq, Repr

/-- What EC2 does with a request it has accepted. -/
structure Accepted where
  polls : List Poll
  /-- How many of its instances run when the wait ends without a result. -/
  started : Nat
  /-- The exception the call that cancels it raises, if any. -/
  cancelRaises : Option Exc
  deriving DecidableEq, Repr

inductive Answer where
  | raised (exc : Exc)
  | accepted (request : Accepted)
  deriving DecidableEq, Repr

structure Machine where
  tags : Tags
  running : Bool

structure Cloud where
  machines : List Machine
  requests : Nat
  answers : Nat → Answer

namespace Cloud

def asked (cloud : Cloud) : Cloud := { cloud with requests := cloud.requests + 1 }

def start (cloud : Cloud) (made : List Machine) : Cloud :=
  { cloud with machines := cloud.machines ++ made }

def nextIds (cloud : Cloud) (count : Nat) : List Nat := List.range' cloud.machines.length count

end Cloud

/-! ## Waiting for a request -/

/-- `get_provisioned_spot_instance_ids`: how many instances it gives, of a request for a number of
instances. -/
def getProvisionedSpotInstanceIds (count : Nat) : Poll → Option Nat
  | .spot requests =>
    match (requests.take count).find? (fun status => decide (status ≠ .fulfilled)) with
    | some .hopeless => none
    | some _ => some 0
    | none => some (requests.take count).length
  | _ => some 0

def getProvisionedFleetInstanceIds (count : Nat) : Poll → Option Nat
  | .fleet .fulfilled active => active.map (min count)
  | .fleet .hopeless _ => none
  | _ => some 0

/-- What a look at a request of either kind gives. -/
def getProvisionedInstanceIds (isFleet : Bool) (count : Nat) (poll : Poll) : Option Nat :=
  if isFleet then getProvisionedFleetInstanceIds count poll
  else getProvisionedSpotInstanceIds count poll

/-- `wait_for_provision_request_done`: how many instances it gives, none when it gives up. -/
def waitForProvisionRequestDone (isFleet : Bool) (count : Nat) : List Poll → Nat
  | [] => 0
  | poll :: rest =>
    match getProvisionedInstanceIds isFleet count poll with
    | none => 0
    | some 0 => waitForProvisionRequestDone isFleet count rest
    | some number => number

/-- How many instances the code sees of a request. -/
def Accepted.obtained (request : Accepted) (isFleet : Bool) (count : Nat) : Nat :=
  waitForProvisionRequestDone isFleet count (request.polls.take spotRequestPolls)

/-! ## Requests -/

/-- `first | second`. -/
def Tags.union (first second : Tags) : Tags := fun key => (second key).orElse fun _ => first key

def Tags.none : Tags := fun _ => Option.none

/-- The tags of an instance after its own were written over those of the launch. -/
def writeTags (kind : String) (launch : Tags) (id place : Nat) (own : Tags) : Tags :=
  launch.union ((Tags.none.set "Name" s!"{kind}_{id}_{place}").union own)

/-- The machines of a launch, with the tags that are popped for them. -/
def tagged (cloud : Cloud) (kind : String) (launch : Tags) (tags : List Tags) (count : Nat) :
    List Machine :=
  (List.range count).map fun place =>
    match tags.reverse[place]? with
    | none => ⟨launch, true⟩
    | some own => ⟨writeTags kind launch (cloud.machines.length + place) place own, true⟩

/-- `_execute_spot_fleet_instance_request` and `_execute_spot_instance_request`. A fleet writes the
tags of its first instance with the launch, and what runs of it ends with the call that cancels
it. The instances and the tags that are left. -/
def executeSpotRequest (isFleet : Bool) (count : Nat) (tags : List Tags) :
    EStateM Exc Cloud (List Nat × List Tags) :=
  match tags with
  | [] => throw indexError
  | first :: _ => do
    let cloud ← modifyGet fun cloud => (cloud, cloud.asked)
    match cloud.answers cloud.requests with
    | .raised exc => throw exc
    | .accepted request =>
      let launch := if isFleet then first else Tags.none
      let number := request.obtained isFleet count
      if number = 0 then
        let running := !(isFleet && request.cancelRaises.isNone)
        modify fun cloud =>
          cloud.start (List.replicate (min request.started count) ⟨launch, running⟩)
        pure ([], tags)
      else
        let kind := if isFleet then "spot_fleet" else "spot"
        modify fun cloud => cloud.start (tagged cloud kind launch tags number)
        if tags.length < number then throw indexError
        else
          match request.cancelRaises with
          | some exc => throw exc
          | none => pure (cloud.nextIds number, tags.take (tags.length - number))

/-- The sizes of the requests of `_provision_spot_instances`, from what is left to provision. -/
def spotBatches (limit : Nat) : Nat → Nat → List Nat
  | 0, _ => []
  | fuel + 1, rest =>
    if rest = 0 then []
    else
      let instances := if rest / limit ≠ 0 then limit else rest
      instances :: spotBatches limit fuel (rest - instances)

def isProvisionTypeFleet (count : Nat) : Bool := decide (count > spotCntLimit)

def provisionInstanceLimit (count : Nat) : Nat :=
  if isProvisionTypeFleet count then spotFleetLimit else spotCntLimit

/-- The sizes of the requests for a number of instances. -/
def batches (count : Nat) : List Nat := spotBatches (provisionInstanceLimit count) count count

/-- The loop of `_provision_spot_instances`. -/
def executeBatches (count : Nat) : List Nat → List Tags → EStateM Exc Cloud (List Nat)
  | [], _ => pure []
  | instances :: rest, tags => do
    let isFleet := isProvisionTypeFleet count && decide (instances > 1)
    let (new, left) ← executeSpotRequest isFleet instances tags
    let more ← executeBatches count rest left
    pure (new ++ more)

def provisionSpotInstances : ProvisionStep Cloud Nat := fun request =>
  executeBatches request.nodeCount (batches request.nodeCount) request.nodeTags

def provisionOnDemandInstances : ProvisionStep Cloud Nat := fun request =>
  match request.nodeTags with
  | [] => throw indexError
  | first :: _ => do
    let cloud ← modifyGet fun cloud => (cloud, cloud.asked)
    match cloud.answers cloud.requests with
    | .raised exc => throw exc
    | .accepted _ =>
      modify fun cloud =>
        cloud.start (tagged cloud "spot_fleet" first request.nodeTags request.nodeCount)
      if request.nodeTags.length < request.nodeCount then throw indexError
      else pure (cloud.nextIds request.nodeCount)

/-- The kinds of `ProvisionParameters`. -/
inductive ProvisionKind where
  /-- `spot` is set. -/
  | spot
  | onDemand
  deriving DecidableEq, Repr

def provisionStep : ProvisionKind → ProvisionStep Cloud Nat
  | .spot => provisionSpotInstances
  | .onDemand => provisionOnDemandInstances

end Sct.Aws
