import Sct.Lib.Effect
import Sct.Provision.Aws.Provisioner

/-!
# Creating EC2 instances during a test

`_create_instances`, `fallback_provision_type`, `_create_spot_instances` and
`_create_on_demand_instances` of `sdcm/cluster_aws.py`, with the requests of `sdcm/ec2_client.py`
that they make. A spot request is cut into requests of a limited size; when the spot instances
cannot be had, the whole number is asked for on demand. What EC2 answers to each request is given.
-/

open Sct.Effect
open Sct.Aws (RequestStatus spotCntLimit spotFleetLimit)

namespace Sct.AwsInstances

/-- How often a request is looked at: `_timeout` over `_wait_interval`. -/
def looks : Nat := 60

inductive InstanceProvision where
  | spot
  | spotFleet
  | onDemand
  deriving DecidableEq, Repr

/-- An exception, as `fallback_provision_type` sees it. -/
structure Failure where
  /-- It is a `ClientError` or a `CreateSpotInstancesError`. -/
  caught : Bool
  /-- `check_spot_error` finds one of its words in the text. -/
  spotError : Bool
  deriving DecidableEq, Repr

inductive Poll where
  | raised (failure : Failure)
  /-- The status of each spot request; of a fleet, the first. -/
  | answered (statuses : Nat → RequestStatus)

structure Answer where
  refused : Option Failure
  polls : Nat → Poll
  /-- How many of its instances are started although the wait ends without a result. -/
  started : Nat
  /-- `check_spot_error` finds one of its words in the last answer of a wait that ran out. -/
  lastText : Bool
  /-- How many instances of a fulfilled fleet are listed, if listing them does not raise. -/
  listed : Except Failure Nat
  tagging : Option Failure
  cancel : Option Failure

structure Ec2 where
  running : List Nat
  next : Nat
  deriving DecidableEq, Repr

abbrev Action := EStateM Failure Ec2

def start (count : Nat) : Action (List Nat) := modifyGet fun ec2 =>
  let ids := List.range' ec2.next count
  (ids, ⟨ec2.running ++ ids, ec2.next + count⟩)

def attempt : Option Failure → Action Unit
  | none => pure ()
  | some failure => throw failure

/-! ## Requests -/

/-- `_is_request_fulfilled` and `_is_fleet_request_fulfilled`: the first request that is not
fulfilled decides. -/
def isRequestFulfilled (requests : Nat) (statuses : Nat → RequestStatus) : RequestStatus :=
  (((List.range requests).map statuses).find? fun status => decide (status ≠ .fulfilled)).getD
    .fulfilled

inductive Waited where
  | raised (failure : Failure)
  | fulfilled
  /-- It is not, and says that it will not be, or does not say. -/
  | gaveUp (hopeless : Bool)
  deriving DecidableEq, Repr

/-- `_wait_for_request_done` and `_wait_for_fleet_request_done`, up to the end of the loop, with
this many looks left. -/
def waitForRequestDone (requests : Nat) (polls : Nat → Poll) : Nat → Nat → Waited
  | 0, _ => .gaveUp false
  | left + 1, round =>
    match polls round with
    | .raised failure => .raised failure
    | .answered statuses =>
      match isRequestFulfilled requests statuses with
      | .fulfilled => .fulfilled
      | .hopeless => .gaveUp true
      | .waiting => waitForRequestDone requests polls left (round + 1)

def Answer.waited (answer : Answer) (isFleet : Bool) (count : Nat) : Waited :=
  waitForRequestDone (if isFleet then 1 else count) answer.polls looks 0

/-- The end of `create_spot_instances` and `create_spot_fleet`: the failure is raised when there are
no instances. -/
def keepInstances (ids : List Nat) (failure : Failure) (answer : Answer) : Action (List Nat) := do
  if ids.isEmpty then throw failure
  attempt answer.tagging
  attempt answer.cancel
  pure ids

/-- `create_spot_instances`: cancelling the requests does not end instances that were started. -/
def createSpotRequest (count : Nat) (answer : Answer) : Action (List Nat) := do
  attempt answer.refused
  match answer.waited false count with
  | .raised failure =>
    let _ ← start (min answer.started count)
    throw failure
  | .gaveUp hopeless =>
    let _ ← start (min answer.started count)
    attempt answer.cancel
    throw ⟨true, hopeless || answer.lastText⟩
  | .fulfilled =>
    let ids ← start count
    keepInstances ids ⟨true, answer.lastText⟩ answer

/-- `create_spot_fleet`: a fleet that is given up is cancelled with its instances, one that lists no
instances is not cancelled. -/
def createSpotFleet (count : Nat) (answer : Answer) : Action (List Nat) := do
  attempt answer.refused
  match answer.waited true count with
  | .raised failure =>
    let _ ← start (min answer.started count)
    throw failure
  | .gaveUp _ =>
    match answer.cancel with
    | some failure =>
      let _ ← start (min answer.started count)
      throw failure
    | none => throw ⟨true, true⟩
  | .fulfilled =>
    let ids ← start count
    match answer.listed with
    | .error failure => throw failure
    | .ok listed => keepInstances (ids.take listed) ⟨true, true⟩ answer

/-- The sizes of the requests of `_create_spot_instances`. -/
def requestCounts (limit count : Nat) : List Nat :=
  if count > limit then
    List.replicate (count / limit) limit ++ (if count % limit ≠ 0 then [count % limit] else [])
  else [count]

/-- The loop of `_create_spot_instances`, from a request on. -/
def createSpotRequests (isFleet : Bool) (answers : Nat → Answer) :
    Nat → List Nat → Action (List Nat)
  | _, [] => pure []
  | place, count :: rest => do
    let new ← if isFleet then createSpotFleet count (answers place)
      else createSpotRequest count (answers place)
    let more ← createSpotRequests isFleet answers (place + 1) rest
    pure (new ++ more)

/-! ## Provisioning -/

/-- What the code reads, and what EC2 answers. -/
structure Setting where
  provision : InstanceProvision
  fallbackOnDemand : Bool
  isZeroNode : Bool
  spot : Nat → Answer
  /-- What tagging the spot instances as zero token nodes raises, if it does. -/
  spotZeroTagging : Option Failure
  /-- What the on-demand request raises, if it is not accepted. -/
  onDemandRefused : Option Failure
  onDemandTagging : Option Failure
  /-- What tagging them as zero token nodes raises, if it does. -/
  onDemandZeroTagging : Option Failure

variable (setting : Setting)

def Setting.isFleet (count : Nat) : Bool :=
  decide (setting.provision = .spotFleet) && decide (count > 1)

def createSpotInstances (count : Nat) : Action (List Nat) := do
  let limit := if setting.provision = .spotFleet then spotFleetLimit else spotCntLimit
  let ids ← createSpotRequests (setting.isFleet count) setting.spot 0 (requestCounts limit count)
  if setting.isZeroNode then attempt setting.spotZeroTagging
  pure ids

def createOnDemandInstances (count : Nat) : Action (List Nat) := do
  attempt setting.onDemandRefused
  let ids ← start count
  attempt setting.onDemandTagging
  if setting.isZeroNode then attempt setting.onDemandZeroTagging
  pure ids

/-- `instances_provision_fallbacks`. -/
def provisionFallbacks (count : Nat) : List InstanceProvision :=
  let first :=
    if setting.provision = .spot || setting.provision = .spotFleet && count = 1 then .spot
    else setting.provision
  first :: if setting.fallbackOnDemand then [.onDemand] else []

def createByType (count : Nat) : InstanceProvision → Action (List Nat)
  | .onDemand => createOnDemandInstances setting count
  | _ => createSpotInstances setting count

/-- The loop of `fallback_provision_type`; `last` is the last of the types. -/
def provisionByTypes (setting : Setting) (count : Nat) (last : InstanceProvision) :
    List InstanceProvision → Action (List Nat)
  | [] => pure []
  | provisionType :: rest =>
    tryCatch (createByType setting count provisionType) fun failure =>
      if !failure.caught || provisionType = last || !failure.spotError then throw failure
      else provisionByTypes setting count last rest

def fallbackProvisionType (count : Nat) : Action (List Nat) :=
  let fallbacks := provisionFallbacks setting count
  provisionByTypes setting count (fallbacks.getLastD .spot) fallbacks

def createInstances (count : Nat) : Action (List Nat) :=
  if count = 0 then pure []
  else if setting.provision = .onDemand then createOnDemandInstances setting count
  else if setting.provision = .spotFleet ∧ count > 1 then createSpotInstances setting count
  else fallbackProvisionType setting count

end Sct.AwsInstances
