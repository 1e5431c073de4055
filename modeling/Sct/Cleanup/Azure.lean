import Sct.Cleanup.World

/-!
# Azure cleanup

A provisioner stands for one resource group, whose name it computes from the test id, the region
and the zone it is built with; `discover_regions` takes those from the names and locations of the
groups of the subscription. It lists the machines that are provisioned and have their interface.
-/

namespace Sct.Cleanup

/-- The text after the last separator, the whole text if there is none: `split(separator)[-1]`
for a separator that does not overlap itself. -/
def lastPart (separator : List Char) : List Char → List Char → List Char
  | found, [] => found
  | found, char :: rest =>
    if separator.isPrefixOf (char :: rest) then
      lastPart separator ((char :: rest).drop separator.length) rest
    else lastPart separator found rest

namespace ResourceGroup

/-- `rg.name.split("SCT-")[-1][:36]`. -/
def testId (group : ResourceGroup) : String :=
  String.ofList ((lastPart "SCT-".toList group.name.toList group.name.toList).take 36)

/-- `_get_az_from_name`: the last character of the name, if a hyphen precedes it. -/
def az (group : ResourceGroup) : Option Char :=
  match group.name.toList.reverse with
  | last :: '-' :: _ => some last
  | _ => none

end ResourceGroup

def convertAzToZone : Option Char → String
  | none => ""
  | some letter =>
    if 'a' ≤ letter ∧ letter ≤ 'z' then toString (letter.toNat - 'a'.toNat + 1)
    else String.ofList [letter]

/-- An `AzureProvisioner`. -/
structure AzureProvisioner where
  testId : String
  region : String
  az : String
  /-- The machines of `_cache`. -/
  instances : List Vm

def resourceGroupName (testId region az : String) : String :=
  "SCT-" ++ testId ++ "-" ++ region ++ (if az = "" then "" else "-" ++ az)

def AzureProvisioner.groupName (provisioner : AzureProvisioner) : String :=
  resourceGroupName provisioner.testId provisioner.region provisioner.az

/-- The tags of the instance made of a machine. -/
def Vm.instanceTags (vm : Vm) : Dict String String :=
  (((Dict.empty.setAll vm.tags).erase "ssh_user").erase "ssh_key").erase "creation_time"

/-- The machine is in `_cache`. -/
def Vm.isCached (vm : Vm) : Bool :=
  vm.provisioningState == "Succeeded" && vm.conversion == .complete

/-- The machine makes the constructor of a provisioner raise. -/
def Vm.breaks (vm : Vm) : Bool :=
  vm.provisioningState == "Succeeded" && vm.conversion == .raises

variable (world : World)

def groupsNamed (name : String) : List ResourceGroup :=
  (world.resourceGroups.getD []).filter fun group => group.name == name

/-- `AzureProvisioner(test_id, region, availability_zone)`: nothing if it raises. -/
def AzureProvisioner.init (testId region : String) (availabilityZone : Option Char) :
    Option AzureProvisioner :=
  let az := convertAzToZone availabilityZone
  let name := resourceGroupName testId region az
  let groups := groupsNamed world name
  let vms := groups.flatMap ResourceGroup.vms
  if world.unreachable name then none
  -- the group must be in the region of the provisioner
  else if groups.any fun group => group.location != region then none
  else if vms.any Vm.breaks then none
  else some ⟨testId, region, az, vms.filter Vm.isCached⟩

/-- The groups `discover_regions` looks at. -/
def sctGroups (regions : List String) (groups : List ResourceGroup) : List ResourceGroup :=
  groups.filter fun group =>
    startsWith group.name "SCT-" && (regions.isEmpty || regions.contains group.location)

/-- `discover_regions(test_id, regions)`: nothing if it raises. A list is no test id. -/
def discoverRegions (testId : TagValue) (regions : List String) : Option (List AzureProvisioner) :=
  match world.resourceGroups with
  | none => none
  | some groups =>
    let all := sctGroups regions groups
    if testId.isTruthy then
      match testId with
      | .text id =>
        (all.filter fun group => contains group.name id).mapM fun group =>
          AzureProvisioner.init world id group.location group.az
      | _ => if all.isEmpty then some [] else none
    else
      (all.filter fun group => group.testId.length == 36).mapM fun group =>
        AzureProvisioner.init world group.testId group.location group.az

/-- The machines of a provisioner that carry the tags. -/
def AzureProvisioner.toClean (tags : Tags) (provisioner : AzureProvisioner) : List Vm :=
  provisioner.instances.filter fun vm => carries vm.instanceTags tags

def report (call : Call) : Issued Call := Issued.check (!world.unreported call)

/-- The loop body of `clean_instances_azure`. -/
def cleanGroup (tags : Tags) (dryRun : Bool) (provisioner : AzureProvisioner) : Issued Call :=
  let group := provisioner.groupName
  let toClean := provisioner.toClean tags
  if provisioner.instances.length = toClean.length then
    Issued.skipIf dryRun
      ((Issued.attempt world.refuses (.deleteGroup group)).andThen (report world (.deleteGroup group)))
  else
    Issued.skipIf dryRun
      ((Issued.each (fun vm => Issued.attempt world.refuses (.deleteVm group vm)) toClean).andThen
        (Issued.each (fun vm => report world (.deleteVm group vm)) toClean))

/-- `tags_dict.get("TestId", "")`. -/
def azureTestId (tags : Tags) : TagValue := (tags.get "TestId").getD (.text "")

def cleanInstancesAzure (tags : Tags) (regions : List String) (dryRun : Bool) : Issued Call :=
  (Issued.check (!tags.entries.isEmpty)).andThen <|
    match discoverRegions world (azureTestId tags) regions with
    | none => .raise
    | some provisioners => Issued.each (cleanGroup world tags dryRun) provisioners

end Sct.Cleanup
