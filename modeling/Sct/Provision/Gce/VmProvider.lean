import Sct.Lib.Effect

/-!
# The VM provider of a GCE zone

`VirtualMachineProvider` of `sdcm/provision/gce/instance_provider.py`: `get_or_create` starts the
inserts of a whole batch before it waits for any of them. What GCE answers to each insert, wait
and poll is given with the definitions, one attempt for each time a VM can be asked for. Of the
text of an API error only what the code searches it for is kept. A poll is the last answer of the
loop in `_wait_until_running`: the loop ends at its deadline. Deletions succeed.
-/

open Sct.Effect

namespace Sct.GceVm

inductive PricingModel where
  | onDemand
  | spot
  | spotFleet
  deriving DecidableEq, Repr

def PricingModel.isSpot : PricingModel → Bool
  | onDemand => false
  | spot => true
  | spotFleet => true

/-- A `GoogleAPIError`, by what its text is searched for. -/
structure ApiError where
  config : Bool
  preemption : Bool
  zoneMarker : Bool
  quota : Bool
  deriving DecidableEq, Repr

/-- `_is_zone_exhausted(error)`. -/
def ApiError.zoneExhausted (error : ApiError) : Bool := !error.config && error.zoneMarker

/-- `AlreadyExists`, the answer to an insert of a name that is taken. -/
def alreadyExists : ApiError := ⟨false, false, false, false⟩

inductive Raised where
  | api (error : ApiError)
  /-- `TimeoutError`, of a wait. -/
  | timeout
  /-- `RuntimeError`, of an operation with an error code and no exception. -/
  | runtime
  | provision
  | preempted
  | configuration
  | zoneExhausted
  deriving DecidableEq, Repr

/-- What a name stands for in the zone. -/
inductive Slot where
  | free
  | inserting
  | machine (running : Bool)
  deriving DecidableEq, Repr

/-- How an insert operation ends for the one who waits for it. -/
inductive Wait where
  | done
  /-- The operation failed; it may leave a VM behind, as a preempted one. -/
  | failed (error : ApiError) (left : Bool)
  | crashed (left : Bool)
  | timeout
  deriving DecidableEq, Repr

/-- How the polls of a created VM end. -/
inductive Poll where
  /-- It is `RUNNING`. -/
  | running
  /-- It is in another status at the deadline, or in one that no waiting changes; the flag says
  whether that is a status of `SPOT_PREEMPTED_STATUSES`. -/
  | stopped (preempted : Bool)
  | failed (error : ApiError)
  deriving DecidableEq, Repr

/-- What GCE answers when a VM is asked for once. -/
structure Attempt where
  /-- What the insert request raises, if it is not accepted. -/
  insert : Option ApiError
  wait : Wait
  poll : Poll
  deriving DecidableEq, Repr

/-- A definition, with what GCE answers when its VM is asked for. -/
structure Request where
  name : String
  /-- It has more network interfaces than its machine type can carry. -/
  tooManyInterfaces : Bool
  /-- The answers, in the batch first and then on each retry. -/
  attempts : Nat → Attempt

structure Provider where
  /-- The names in `_cache`. -/
  cache : String → Bool
  slots : String → Slot

/-- The provider after something happened to one name. -/
def Provider.put (provider : Provider) (name : String) (slot : Slot) (cached : Bool) :
    Provider where
  cache := Function.update provider.cache name cached
  slots := Function.update provider.slots name slot

abbrev Action := EStateM Raised Provider

/-- Change what a name stands for in the zone. -/
def setSlot (name : String) (slot : Slot) : Action Unit :=
  modify fun provider => provider.put name slot (provider.cache name)

/-- `self._cache[name] = instance`. -/
def keepInstance (name : String) : Action Unit :=
  modify fun provider => provider.put name (provider.slots name) true

/-- `delete` of a VM, and `_release_instance_name` of one that is being inserted: where there is
nothing to delete, the answer is logged only. -/
def delete (name : String) : Action Unit := do
  match (← get).slots name with
  | .free => pure ()
  | _ => modify fun provider => provider.put name .free false

def insert (name : String) (answer : Option ApiError) : Action Unit := do
  match (← get).slots name with
  | .free =>
    match answer with
    | none => setSlot name .inserting
    | some error => throw (.api error)
  | _ => throw (.api alreadyExists)

def buildAndInsertInstance (request : Request) (attempt : Nat) : Action Unit :=
  if request.tooManyInterfaces then throw .provision
  else insert request.name (request.attempts attempt).insert

/-- What a failed operation leaves of a name. -/
def leftSlot (left : Bool) : Slot := if left then .machine false else .free

def waitForExtendedOperation (name : String) : Wait → Action Unit
  | .done => setSlot name (.machine false)
  | .failed error left => do
    setSlot name (leftSlot left)
    throw (.api error)
  | .crashed left => do
    setSlot name (leftSlot left)
    throw .runtime
  | .timeout => throw .timeout

variable (pricingModel : PricingModel)

def waitUntilRunning (name : String) : Poll → Action Unit
  | .running => setSlot name (.machine true)
  | .stopped preempted => do
    delete name
    throw (if pricingModel.isSpot && preempted then .preempted else .provision)
  | .failed error => throw (.api error)

/-- Wait for an insert and its VM, and keep the VM. -/
def awaitInstance (request : Request) (attempt : Nat) :
    Action Unit := do
  waitForExtendedOperation request.name (request.attempts attempt).wait
  waitUntilRunning pricingModel request.name (request.attempts attempt).poll
  keepInstance request.name

def cleanupFailedInstance (name : String) (error : ApiError) : Action Unit :=
  if error.preemption || error.quota then delete name else pure ()

def abandonTimedOutCreation (name : String) : Action Unit := do
  delete name
  throw .provision

/-- What an API error is raised as again, when waiting for it again makes no sense. -/
def unrecoverable (error : ApiError) : Option Raised :=
  if error.config then some .configuration
  else if pricingModel.isSpot && error.preemption then some .preempted
  else if error.zoneExhausted then some .zoneExhausted
  else none

/-- One try of `_create_instance_with_retry`. -/
def createInstance (request : Request) (attempt : Nat) : Action Unit :=
  tryCatch
    (do
      buildAndInsertInstance request attempt
      awaitInstance pricingModel request attempt)
    fun
    | .timeout => abandonTimedOutCreation request.name
    | .api error => do
      cleanupFailedInstance request.name error
      throw ((unrecoverable pricingModel error).getD (.api error))
    | exc => throw exc

/-- `_create_instance_with_retry`, with this many tries left: an API error starts the next one. -/
def createInstanceWithRetry (pricingModel : PricingModel) (request : Request) (attempt : Nat) :
    Nat → Action Unit
  | 0 => createInstance pricingModel request attempt
  | left + 1 =>
    tryCatch (createInstance pricingModel request attempt) fun
      | .api _ => createInstanceWithRetry pricingModel request (attempt + 1) left
      | exc => throw exc

def waitForInstanceCreation (request : Request) : Action Unit :=
  tryCatch (awaitInstance pricingModel request 0) fun
    | .timeout => abandonTimedOutCreation request.name
    | .api error => do
      cleanupFailedInstance request.name error
      match unrecoverable pricingModel error with
      | some exc => throw exc
      | none => createInstanceWithRetry pricingModel request 1 2
    | exc => throw exc

/-- One round of `_drain_pending_creations`. -/
def drainOne (request : Request) : Action Unit :=
  tryCatch (awaitInstance pricingModel request 0) fun
    | .provision => pure ()
    | .preempted => pure ()
    | _ => delete request.name

def drainPendingCreations (pending : List Request) : Action Unit :=
  forM pending (drainOne pricingModel)

/-- The local variables of `get_or_create`. -/
structure Batch where
  /-- `instances`, by name. -/
  instances : List String
  pending : List Request
  errorToRaise : Option ApiError

def startInserts (pricingModel : PricingModel) : List Request → Batch → Action Batch
  | [], batch => pure batch
  | request :: rest, batch => do
    if (← get).cache request.name then
      startInserts pricingModel rest { batch with instances := batch.instances ++ [request.name] }
    else
      let batch ← tryCatch
        (do
          buildAndInsertInstance request 0
          pure { batch with pending := batch.pending ++ [request] })
        fun
        | .api error =>
          match unrecoverable pricingModel error with
          | some .preempted => do
            drainPendingCreations pricingModel batch.pending
            throw .preempted
          | some exc => throw exc
          | none => pure { batch with errorToRaise := some error }
        | exc => throw exc
      startInserts pricingModel rest batch

def awaitInserts (pricingModel : PricingModel) :
    List Request → List String → Option ApiError → Action (List String × Option ApiError)
  | [], instances, errorToRaise => pure (instances, errorToRaise)
  | request :: rest, instances, errorToRaise => do
    let (instances, errorToRaise) ← tryCatch
      (do
        waitForInstanceCreation pricingModel request
        pure (instances ++ [request.name], errorToRaise))
      fun
      | .preempted => do
        drainPendingCreations pricingModel rest
        throw .preempted
      | .provision => do
        drainPendingCreations pricingModel rest
        throw .provision
      | .api error => pure (instances, some error)
      | exc => throw exc
    awaitInserts pricingModel rest instances errorToRaise

def getOrCreate (requests : List Request) : Action (List String) := do
  let batch ← startInserts pricingModel requests ⟨[], [], none⟩
  let (instances, errorToRaise) ←
    awaitInserts pricingModel batch.pending batch.instances batch.errorToRaise
  match errorToRaise with
  | none => pure instances
  | some error => throw ((unrecoverable pricingModel error).getD .provision)

end Sct.GceVm
