import Sct.Provision.Aws.World

/-!
# Region switches on AWS

`sdcm/provision/aws/region_fallback.py`, with the parts of the configuration and of the image
lookups it calls: `resolve_amis`, which finds the AMI parameters again for another region and
writes each as it is found; `remap_dc_ami`, which does the same for one data center and writes
all of them at the end; the switches, the restore and the cleanup of an abandoned region.
-/

open Sct.Effect

namespace Sct.Aws

/-! ## Capacity errors -/

def capacityErrorCodes : List String :=
  ["InsufficientInstanceCapacity", "Unsupported", "InsufficientCapacity"]

def isCapacityError (exc : Exc) : Bool :=
  match exc.cls with
  | .clientError codes => codes.any (· ∈ capacityErrorCodes)
  | _ => false

/-! ## Images -/

inductive ImageAccount where
  | own
  | scyllaImages
  deriving DecidableEq, Repr

/-- The filters an image name is looked up with. -/
inductive NameFilter where
  | tagName
  | name
  deriving DecidableEq, Repr

/-- The parameters that provisioning reads and never writes. -/
structure Config where
  clusterBackend : String
  /-- `_ami_params_snapshot`: the AMI parameters as they were configured, names included. -/
  amiParamsSnapshot : AmiParam → Option String
  testId : Option String
  reuseCluster : Bool
  useCapacityReservation : Bool
  useDedicatedHost : Bool
  instanceProvision : String
  nDbNodes : Option (List Nat)
  simulatedRegions : Nat
  xcloudProvider : Option String
  fallbackToNextRegion : Bool
  fallbackToNextAvailabilityZone : Option Bool
  awsFallbackToNextAvailabilityZone : Bool

/-- What EC2 and the other services answer and do. -/
structure Api (κ : Type) where
  /-- `get_ssm_ami`, of a parameter in a region. -/
  getSsmAmi : String → String → EStateM Exc κ String
  /-- `get_by_owner_ami`, of an owner's image in a region. -/
  getByOwnerAmi : String → String → EStateM Exc κ String
  /-- The newest image of a name in a region, by account and filter. -/
  newestImage : ImageAccount → NameFilter → String → String → EStateM Exc κ (Option String)
  /-- `find_equivalent_ami`: the images in a target region that have the tags of an AMI of a
  source region. -/
  findEquivalentAmi : String → String → String → EStateM Exc κ (List String)
  cancelAllRegions : String → EStateM Exc κ Unit
  /-- Find and terminate the instances of the test in a region. -/
  terminateStrayInstances : String → String → EStateM Exc κ Unit
  /-- Delete the KMS alias of the test in a region. -/
  deleteKmsAlias : String → String → EStateM Exc κ Unit
  forgetReservations : κ → κ

variable {κ : Type} (config : Config) (api : Api κ)

/-- The image of a name in one account. -/
def accountImage (account : ImageAccount) (name region : String) :
    EStateM Exc κ (Option String) := do
  match ← api.newestImage account .tagName name region with
  | some image => pure (some image)
  | none => api.newestImage account .name name region

/-- The image of a name in a region: that of the second account wins. -/
def namedImage (name region : String) : EStateM Exc κ (Option String) := do
  let own ← accountImage api .own name region
  let shared ← accountImage api .scyllaImages name region
  pure (shared.orElse fun _ => own)

def convertNameToAmiIfNeeded (amiIdParam : String) (regionNames : List String) :
    EStateM Exc κ String :=
  match words amiIdParam with
  | [value] =>
    if startsWith value "resolve:ssm:" then
      unwords <$> regionNames.mapM (api.getSsmAmi (value.replace "resolve:ssm:" ""))
    else if startsWith value "resolve:owner:" then
      unwords <$> regionNames.mapM (api.getByOwnerAmi (value.replace "resolve:owner:" ""))
    else if startsWith value "ami-" then pure amiIdParam
    else do
      let images ← regionNames.mapM (namedImage api value)
      -- the images are kept by region, so a region named twice counts once
      if images.all Option.isSome ∧ regionNames.Nodup then pure (unwords images.reduceOption)
      else throw (.raised .valueError ("Can't convert name '" ++ amiIdParam ++
        "' to AMI_id, no image found in regions " ++ formatTuple regionNames))
  | _ => pure amiIdParam

/-- The text of `RegionAMINotFoundError`. -/
def noEquivalentAmi (key value sourceRegion region : String) : Exc :=
  .raised .regionAMINotFoundError ("No equivalent AMI for " ++ key ++ "=" ++ value ++ " (from " ++
    sourceRegion ++ ") in " ++ region ++ "; region ineligible for fallback")

/-- The first image equivalent to an AMI in a region. -/
def equivalentAmi (key sourceRegion region amiId : String) : EStateM Exc κ String := do
  match ← api.findEquivalentAmi amiId sourceRegion region with
  | [] => throw (noEquivalentAmi key amiId sourceRegion region)
  | first :: _ => pure first

def remapAmisToRegions (value sourceRegion : String) (regionNames : List String) (key : String) :
    EStateM Exc κ String := do
  let remapped ← regionNames.mapM fun region =>
    (words value).mapM (equivalentAmi api key sourceRegion region)
  pure (unwords remapped.flatten)

/-- `original and not original.split()[0].startswith("ami-")`. -/
def isImageName (original : Option String) : EStateM Exc κ Bool :=
  match truthy original with
  | none => pure false
  | some text =>
    match words text with
    | [] => throw indexError
    | first :: _ => pure (!startsWith first "ami-")

/-- The value `resolve_amis` gives a parameter: found again by name, or by equivalence with the
current one, or left alone. -/
def resolveAmi (regionNames : List String) (sourceRegion : Option String) (key : AmiParam)
    (current : Option String) : EStateM Exc κ (Option String) := do
  if ← isImageName (config.amiParamsSnapshot key) then
    some <$> convertNameToAmiIfNeeded api ((config.amiParamsSnapshot key).getD "") regionNames
  else
    match truthy current, truthy sourceRegion with
    | some value, some source => some <$> remapAmisToRegions api value source regionNames key.key
    | _, _ => pure current

/-- The value `resolve_amis` gives `target_db_image_ids`. -/
def remapTargetDbImageIds (regionNames : List String) (sourceRegion : Option String)
    (images : List String) : EStateM Exc κ (List String) :=
  match truthy sourceRegion with
  | none => pure images
  | some source => images.mapM fun ami =>
    remapAmisToRegions api ami source regionNames "instance_type_db_target"

def resolveAmis (regionNames : List String) (sourceRegion : Option String) : Action κ Unit :=
  if config.clusterBackend ≠ "aws" then pure ()
  else do
    zoom World.amisAndCloud World.withAmisAndCloud
      (Table.assignEach (resolveAmi config api regionNames sourceRegion) amiIdParams)
    let world ← get
    let images ← zoom World.cloud World.withCloud
      (remapTargetDbImageIds api regionNames sourceRegion world.settings.targetDbImageIds)
    modify fun world => world.withSettings { world.settings with targetDbImageIds := images }

def resolveRelocatedAmi (key : AmiParam) (currentAmi : String) (dcIndex regionCount : Nat)
    (sourceRegion targetRegion : String) : EStateM Exc κ String :=
  match words ((config.amiParamsSnapshot key).getD "") with
  | first :: others =>
    if startsWith first "ami-" then equivalentAmi api key.key sourceRegion targetRegion currentAmi
    else do
      let tokens := first :: others
      let name := if tokens.length = regionCount then tokens.getD dcIndex "" else first
      let notFound := noEquivalentAmi key.key name sourceRegion targetRegion
      let resolved ← tryCatch (convertNameToAmiIfNeeded api name [targetRegion]) fun exc =>
        if exc.cls = .valueError then throw notFound else throw exc
      match words resolved with
      | [] => throw notFound
      | image :: _ => if startsWith image "ami-" then pure image else throw notFound
  | [] => equivalentAmi api key.key sourceRegion targetRegion currentAmi

/-- The value `remap_dc_ami` gives a parameter. -/
def remapDcAmiValue (dcIndex regionCount : Nat) (sourceRegion targetRegion : String)
    (key : AmiParam) (current : Option String) : EStateM Exc κ (Option String) :=
  match truthy current with
  | none => pure current
  | some value => do
    let amis := words value
    if amis.length ≠ 1 ∧ amis.length ≠ regionCount then
      throw (.raised .valueError (key.key ++ " has " ++ amis.length.repr ++
        " AMI(s) but the config has " ++ regionCount.repr ++
        " region(s); cannot positionally remap it for region fallback"))
    else if amis.length ≤ dcIndex then pure current
    else do
      let image ← resolveRelocatedAmi config api key (amis.getD dcIndex "") dcIndex regionCount
        sourceRegion targetRegion
      pure (some (unwords (amis.set dcIndex image)))

def remapDcAmi (dcIndex : Nat) (sourceRegion targetRegion : String) : Action κ Unit := do
  let world ← get
  let regionCount := world.settings.placement.configuredRegions.length
  zoom World.amisAndCloud World.withAmisAndCloud
    (Table.assignAll (remapDcAmiValue config api dcIndex regionCount sourceRegion targetRegion)
      amiIdParams)

/-! ## Switching, restoring and cleaning up -/

def enforceSingleRegionGate : Action κ Unit := do
  let world ← get
  let regionNames := world.settings.placement.configuredRegions
  if regionNames.length = 1 then pure ()
  else throw (.raised .valueError ("fallback_to_next_region requires a single configured region " ++
    "(got " ++ formatList regionNames ++ "); region fallback does not support multi-DC."))

def enforceMultiDcFallbackSupported : Action κ Unit :=
  if config.useCapacityReservation || config.useDedicatedHost then
    throw (.raised .valueError ("fallback_to_next_region with multiple regions does not support " ++
      "use_capacity_reservation or use_dedicated_host (both are region-scoped); disable them or " ++
      "use a single region."))
  else pure ()

def switchRegion (region : String) (azLetters : List String) (sourceRegion : Option String)
    (invalidateCaches : κ → κ) : Action κ Unit := do
  record fun world => .switchRegion region sourceRegion world.settings world.cloud
  resolveAmis config api [region] sourceRegion
  writePlacement fun _ => .moved region azLetters
  modifyCloud invalidateCaches
  modifyCloud api.forgetReservations

def switchDcRegion (dcIndex : Nat) (region sourceRegion : String) (invalidateCaches : κ → κ) :
    Action κ Unit := do
  remapDcAmi config api dcIndex sourceRegion region
  let world ← get
  let regionNames := world.settings.placement.configuredRegions
  if dcIndex < regionNames.length then do
    writePlacement fun placement => placement.withRegions (regionNames.set dcIndex region)
    modifyCloud invalidateCaches
  else throw (.raised .indexError "list assignment index out of range")

def restoreRegion (region availabilityZone envRegion : Option String) : Action κ Unit := do
  record fun world => .restore world.settings
  writePlacement fun placement => placement.restored region availabilityZone envRegion

def cleanupAbandonedRegion (region : String) : Query κ Unit := fun _ =>
  match truthy config.testId with
  | none => pure ()
  | some testId => do
    tryCatch (api.cancelAllRegions testId) fun _ => pure ()
    tryCatch (api.terminateStrayInstances testId region) fun _ => pure ()

def cleanupRegion (region : Option String) (partialCleanup : Query κ Unit) : Query κ Unit := do
  partialCleanup
  match truthy region with
  | none => pure ()
  | some name => do
    cleanupAbandonedRegion config api name
    tryCatch (api.deleteKmsAlias (config.testId.getD "None") name : Query κ Unit) fun _ => pure ()

end Sct.Aws
