import Sct.Lib.Dict
import Sct.Lib.Scan
import Sct.Provision.Gce.VmProvider

/-!
# The GCE provisioner

`GceProvisioner` of `sdcm/provision/gce/provisioner.py`. Instances are created, deleted and rebooted
through the VM provider of their zone. The cloud says of every zone what each name stands for in
it; a session is a provisioner with the cloud it works on. A provider for another zone is built
when it is needed, with an empty cache. What GCE answers when the VM of a definition is asked for
is given beside the definitions.
-/

open Sct.Effect

namespace Sct.GceVm

/-- `char.lower()`. Of the characters outside ASCII, the Kelvin sign and the dotted capital I are
those whose lower case has a letter of ASCII. -/
def lowered (char : Char) : List Char :=
  if char = '\u212a' then ['k']
  else if char = '\u0130' then ['i', '\u0307']
  else [char.toLower]

/-- `re.sub(r"[^a-z0-9-]", "-", char)`. -/
def replaced (char : Char) : Char :=
  if Scan.isLower char || Scan.isDigit char then char else '-'

def normalizeInstanceName (name : String) : String :=
  let normalized := (name.toList.flatMap lowered).map replaced
  let started := match normalized with
    | [] => []
    | first :: rest => if Scan.isLower first then first :: rest else 'n' :: first :: rest
  String.ofList (((started.take 63).reverse.dropWhile (· == '-')).reverse)

/-- `InstanceDefinition`, as far as the provisioner reads it. -/
structure Definition where
  name : String
  rackIndex : Option Nat
  /-- `int(definition.tags.get("NodeIndex", 1))`, if that does not raise. -/
  nodeIndex : Option Int
  /-- It has more network interfaces than its machine type can carry. -/
  tooManyInterfaces : Bool
  deriving DecidableEq

/-- `_cache_key` of a definition. -/
def Definition.key (definition : Definition) : String := normalizeInstanceName definition.name

structure VmInstance where
  name : String
  zone : String
  deriving DecidableEq, Repr

/-- `GceProvisioner`. -/
structure Provisioner where
  zoneNames : List String
  cache : Dict String VmInstance
  instanceZones : Dict String String
  /-- The names in the `_cache` of the VM provider of a zone. -/
  vmCaches : String → String → Bool

/-- `__init__`: the instances that `list` finds in the zones fill the caches. -/
def newProvisioner (zoneNames : List String) (listed : String → List String) : Provisioner :=
  let found := zoneNames.flatMap fun zone => (listed zone).map fun name => (name, zone)
  { zoneNames
    cache := Dict.empty.setAll (found.map fun entry => (entry.1, ⟨entry.1, entry.2⟩))
    instanceZones := Dict.empty.setAll found
    vmCaches := fun _ _ => false }

/-- What the names in each zone stand for. -/
abbrev Cloud := String → String → Slot

structure Session where
  provisioner : Provisioner
  cloud : Cloud

def Provisioner.availabilityZone (provisioner : Provisioner) : String :=
  provisioner.zoneNames.headD ""

def Provisioner.zoneForDefinition (provisioner : Provisioner) (definition : Definition) : String :=
  let zones := provisioner.zoneNames
  if zones.length = 1 then provisioner.availabilityZone
  else
    match definition.rackIndex with
    | some rack => zones.getD (rack % zones.length) ""
    | none =>
      match definition.nodeIndex with
      | some index => zones.getD ((index - 1) % zones.length).toNat ""
      | none => provisioner.availabilityZone

def Session.provider (session : Session) (zone : String) : Provider :=
  ⟨session.provisioner.vmCaches zone, session.cloud zone⟩

/-- The session after something happened in a zone. -/
def Session.withProvider (zone : String) (provider : Provider) (session : Session) : Session where
  provisioner := { session.provisioner with
    vmCaches := Function.update session.provisioner.vmCaches zone provider.cache }
  cloud := Function.update session.cloud zone provider.slots

/-- Run code of the VM provider of a zone. -/
def inZone {α : Type} (zone : String) (body : Action α) : EStateM Raised Session α :=
  zoom (·.provider zone) (Session.withProvider zone) body

/-- `self._cache[name] = self._gce_instance_to_vm_instance(instance)`. -/
def remember (zone name : String) : EStateM Raised Session Unit :=
  modify fun session => { session with provisioner := { session.provisioner with
    cache := session.provisioner.cache.set name ⟨name, zone⟩
    instanceZones := session.provisioner.instanceZones.set name zone } }

/-- `del self._cache[name]`. -/
def forget (name : String) : EStateM Raised Session Unit :=
  modify fun session => { session with provisioner := { session.provisioner with
    cache := session.provisioner.cache.erase name } }

/-- `self._instance_zones.pop(name, None)`. -/
def forgetZone (name : String) : EStateM Raised Session Unit :=
  modify fun session => { session with provisioner := { session.provisioner with
    instanceZones := session.provisioner.instanceZones.erase name } }

variable (pricingModel : PricingModel) (answers : Definition → Nat → Attempt)

/-- A definition as the VM provider gets it. -/
def Definition.request (definition : Definition) : Request :=
  ⟨definition.key, definition.tooManyInterfaces, answers definition⟩

def Provisioner.vmsToCreate (provisioner : Provisioner) (definitions : List Definition) :
    List Definition :=
  definitions.filter fun definition => (provisioner.cache.get definition.key).isNone

/-- The zones of definitions, in the order in which they come up. -/
def Provisioner.zonesOf (provisioner : Provisioner) (definitions : List Definition) : List String :=
  (definitions.map provisioner.zoneForDefinition).eraseDups

def Provisioner.zoneGroup (provisioner : Provisioner) (definitions : List Definition)
    (zone : String) : List Definition :=
  definitions.filter fun definition => provisioner.zoneForDefinition definition = zone

def createInZone (zone : String) (group : List Definition) : EStateM Raised Session Unit := do
  let names ← inZone zone (getOrCreate pricingModel (group.map (Definition.request answers)))
  forM names (remember zone)

def getOrCreateInstances (definitions : List Definition) :
    EStateM Raised Session (List VmInstance) := do
  let provisioner := (← get).provisioner
  let vms := provisioner.vmsToCreate definitions
  forM (provisioner.zonesOf vms) fun zone =>
    createInZone pricingModel answers zone (provisioner.zoneGroup vms zone)
  let cache := (← get).provisioner.cache
  match definitions.mapM fun definition => cache.get definition.key with
  | some instances => pure instances
  | none => throw .provision

/-- The zone `_provider_for_instance` works in. -/
def Provisioner.zoneForInstance (provisioner : Provisioner) (name : String) : String :=
  (provisioner.instanceZones.get name).getD provisioner.availabilityZone

def terminateInstance (name : String) : EStateM Raised Session Unit := do
  let name := normalizeInstanceName name
  inZone ((← get).provisioner.zoneForInstance name) (delete name)
  forgetZone name
  forget name

/-- `reboot` of the VM provider: a VM that is not there is logged only. -/
def reboot (name : String) : Action Unit := do
  match (← get).slots name with
  | .machine _ => modify fun provider => provider.put name (.machine true) false
  | _ => pure ()

def rebootInstance (name : String) : EStateM Raised Session Unit := do
  let name := normalizeInstanceName name
  inZone ((← get).provisioner.zoneForInstance name) (reboot name)
  forget name

def Provisioner.listInstances (provisioner : Provisioner) : List VmInstance :=
  provisioner.cache.entries.map Prod.snd

def cleanup : EStateM Raised Session Unit := do
  forM (← get).provisioner.cache.keys terminateInstance
  modify fun session => { session with provisioner := { session.provisioner with
    cache := Dict.empty
    instanceZones := Dict.empty
    vmCaches := fun _ _ => false } }

end Sct.GceVm
