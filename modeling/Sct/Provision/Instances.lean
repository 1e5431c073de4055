import Sct.Lib.Dict

/-!
# The instances of the Azure and OCI provisioners

`get_or_create_instances` of `sdcm/provision/azure/provisioner.py` and
`sdcm/provision/oci/provisioner.py`, with the part of their VM providers that decides in which order
instances come back. Azure polls the VMs it creates in rounds and creates stuck ones again.
-/

namespace Sct.Instances

structure VmInstance where
  name : String
  deriving DecidableEq, Repr

/-! ## Azure -/

structure Azure where
  cache : Dict String VmInstance
  /-- `_cache` of the VM provider. -/
  vmCache : Dict String VmInstance

/-- `_wait_all_provisioned`, with this many rounds left: `ready` is the round in which a VM is found
to have succeeded. -/
def waitAllProvisioned (ready : String → Nat) :
    Nat → Nat → List String → List VmInstance → List VmInstance × List String
  | 0, _, pending, provisioned => (provisioned, pending)
  | left + 1, round, pending, provisioned =>
    let found := pending.filter fun name => decide (ready name ≤ round)
    waitAllProvisioned ready left (round + 1)
      (pending.filter fun name => !decide (ready name ≤ round))
      (provisioned ++ found.map VmInstance.mk)

/-- `get_or_create` of the VM provider: the VMs, the names that are stuck and the new cache. -/
def getOrCreate (ready : String → Nat) (rounds : Nat) (definitions : List String)
    (vmCache : Dict String VmInstance) :
    List VmInstance × List String × Dict String VmInstance :=
  let cached := definitions.filterMap vmCache.get
  let pending := definitions.filter fun name => (vmCache.get name).isNone
  let (provisioned, stuck) := waitAllProvisioned ready rounds 0 pending []
  (cached ++ provisioned, stuck, vmCache.setAll (provisioned.map fun vm => (vm.name, vm)))

def provisionWithStuckRecreate (ready : Nat → String → Nat) (rounds : Nat)
    (definitions : List String) :
    Nat → Nat → Dict String VmInstance → Option (List VmInstance) × Dict String VmInstance
  | left, attempt, vmCache =>
    match getOrCreate (ready attempt) rounds definitions vmCache with
    | (vms, [], vmCache) => (some vms, vmCache)
    | (_, _ :: _, vmCache) =>
      match left with
      | 0 => (none, vmCache)
      | left + 1 => provisionWithStuckRecreate ready rounds definitions left (attempt + 1) vmCache

def definitionsToProvision (cache : Dict String VmInstance) (definitions : List String) :
    List String :=
  definitions.filter fun name => (cache.get name).isNone

/-- The loop that fills `_cache`: `none` when a VM is missing. -/
def cacheInstances (vmsByName : Dict String VmInstance) :
    List String → Dict String VmInstance → Option Unit × Dict String VmInstance
  | [], cache => (some (), cache)
  | name :: rest, cache =>
    match vmsByName.get name with
    | none => (none, cache)
    | some vm => cacheInstances vmsByName rest (cache.set name vm)

def Azure.getOrCreateInstances (ready : Nat → String → Nat) (rounds recreateAttempts : Nat)
    (definitions : List String) (azure : Azure) : Option (List VmInstance) × Azure :=
  match definitionsToProvision azure.cache definitions with
  | [] => (definitions.mapM azure.cache.get, azure)
  | toProvision =>
    match provisionWithStuckRecreate ready rounds toProvision recreateAttempts 0 azure.vmCache with
    | (none, vmCache) => (none, { azure with vmCache })
    | (some vms, vmCache) =>
      let vmsByName := Dict.empty.setAll (vms.map fun vm => (vm.name, vm))
      match cacheInstances vmsByName toProvision azure.cache with
      | (none, cache) => (none, { cache, vmCache })
      | (some _, cache) => (definitions.mapM cache.get, { cache, vmCache })

/-! ## OCI -/

/-- `get_or_create_instances` on OCI. -/
def ociGetOrCreateInstances (definitions : List String) (cache : Dict String VmInstance) :
    List VmInstance × Dict String VmInstance :=
  let cached := definitions.filterMap cache.get
  let created := (definitionsToProvision cache definitions).map VmInstance.mk
  (cached ++ created, cache.setAll (created.map fun vm => (vm.name, vm)))

end Sct.Instances
