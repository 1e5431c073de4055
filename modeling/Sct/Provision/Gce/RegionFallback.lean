import Sct.Provision.Common.RegionRuns
import Sct.Provision.Gce.ZoneResolver

/-!
# Capacity fallback on GCE

`sdcm/provision/gce/region_fallback.py`: the zone retry around one attempt, the GCE callbacks of
the two whole-cluster loops, and the router that picks a loop by the number of configured
data centers. The test's id and network never change in a run and are part of the `Api`.
-/

open Sct.Effect

namespace Sct.Gce

/-! ## Capacity errors -/

def capacityErrorMarkers : List String :=
  ["ZONE_RESOURCE_POOL_EXHAUSTED", "RESOURCE_POOL_EXHAUSTED", "stockout"]

def configErrorMarkers : List String :=
  ["not compatible for creating instance", "not compatible with machine type architecture"]

/-- `is_config_error`. The markers are ASCII, so lowering the ASCII letters is enough. -/
def isConfigError (exc : Exc) : Bool :=
  configErrorMarkers.any (contains exc.message.toLower)

def isZoneCapacityError (exc : Exc) : Bool :=
  !isConfigError exc && capacityErrorMarkers.any (contains exc.message)

def isCapacityError (exc : Exc) : Bool :=
  match exc.cls with
  | .zoneResourcesExhaustedError => true
  | .provisionError => isZoneCapacityError exc
  | _ => false

/-! ## Settings -/

def switchRegion {κ : Type} (region : String) (azLetters : List String) : Action κ Unit :=
  writePlacement fun _ => .moved region azLetters

def restoreRegion {κ : Type} (region availabilityZone envRegion : Option String) :
    Action κ Unit :=
  writePlacement fun placement => placement.restored region availabilityZone envRegion

/-- `switch_dc_region`: the zone letters are deliberately not written. -/
def switchDcRegion {κ : Type} (dcIndex : Nat) (region : String) (_azLetters : List String) :
    Action κ Unit := do
  let world ← get
  let datacenters := world.placement.parameterRegions
  if dcIndex < datacenters.length then
    writePlacement fun placement => placement.withRegions (datacenters.set dcIndex region)
  else throw (.raised .indexError "list assignment index out of range")

def enforceSingleRegionGate {κ : Type} : Action κ Unit := do
  let world ← get
  let datacenters := world.placement.configuredRegions
  if datacenters.length = 1 then pure ()
  else throw (.raised .valueError
    ("whole-cluster region fallback requires a single GCE datacenter (got " ++
      formatList datacenters ++
      "); multi-DC configs must go through provision_with_dc_fallback instead."))

/-- `_failed_dc_index`: the first data center whose region the message names. -/
def failedDcIndex (exc : Exc) (placement : Placement) : Option Nat :=
  placement.parameterRegions.findIdx? fun region => region ≠ "" && contains exc.message region

/-! ## Cleanup -/

section

variable {κ : Type} (api : Api κ) (config : Config)

/-- `discover_regions`: the region and the zone of each provisioner. -/
def discoverRegions : EStateM Exc κ (List (String × String)) := do
  let zones ← api.zonesWithInstances
  pure (zones.eraseDups.filterMap fun zone =>
    (splitLast '-' zone).map fun parts => (parts.1, zone))

/-- Delete what the test has in one zone, when the zone is in the region; a failure is logged. -/
def sweepZone (region : Option String) (provisioner : String × String) : EStateM Exc κ Unit :=
  if some provisioner.1 = region then tryCatch (api.cleanupZone provisioner.2) fun _ => pure ()
  else pure ()

/-- The part of `cleanup_region` that sweeps the zones of a region. -/
def sweepRegion (region : Option String) : EStateM Exc κ Unit := do
  match ← tryCatch (some <$> discoverRegions api) fun _ => pure none with
  | none => pure ()
  | some provisioners => provisioners.forM (sweepZone api region)

variable (regionCandidates : Generator (Query κ) Candidate) (provisionOnce : Action κ Unit)
  (partialCleanup : Option (Query κ Unit)) (errorFactory : String → Exc)
  (originalAz : Option String)

/-- The caller's own cleanup, when it has one. -/
def runPartialCleanup : Query κ Unit :=
  partialCleanup.getD (pure ())

def cleanupRegion (region : Option String) :
    Query κ Unit := fun placement => do
  runPartialCleanup partialCleanup placement
  sweepRegion api region

/-- Run the caller's cleanup once and sweep every configured region. -/
def cleanupDatacenters : Query κ Unit :=
  fun placement => do
    runPartialCleanup partialCleanup placement
    placement.parameterRegions.eraseDups.forM fun region =>
      cleanupRegion api none (some region) placement

/-! ## Zones -/

/-- `attempt` of the zone retry: `none` on success, otherwise the capacity error. -/
def zoneAttempt : Action κ (Option Exc) :=
  tryCatch (do provisionOnce; pure none) fun exc =>
    if isCapacityError exc then pure (some exc)
    else do
      writeAvailabilityZone originalAz
      throw exc

/-- One iteration over the zone candidates: sweep, move to the zone and try. The local variable
is the last capacity error. -/
def retryZone (lastError : Exc) (step : Action κ (Option (List String))) :
    Action κ (Exc ⊕ Unit) := do
  match ← step with
  | none => pure (.inl lastError)
  | some azLetters => do
    Query.lift (cleanupDatacenters api partialCleanup)
    writeAvailabilityZone (some (",".intercalate azLetters))
    match ← zoneAttempt provisionOnce originalAz with
    | none => pure (.inr ())
    | some exc => pure (.inl exc)

def provisionWithZoneRetry : Action κ Unit := do
  let world ← get
  let originalAz := world.placement.availabilityZone
  match ← zoneAttempt provisionOnce originalAz with
  | none => pure ()
  | some exc => do
    let steps ← ((getAzFallbackCandidates api config).lift Query.lift).start
    match ← foldUntil (retryZone api provisionOnce partialCleanup originalAz) exc steps with
    | .inr () => pure ()
    | .inl lastError => do
      writeAvailabilityZone originalAz
      throw lastError

def provisionWithAzFallback : Action κ Unit :=
  if config.isAzFallbackEnabled then
    provisionWithZoneRetry api config provisionOnce partialCleanup
  else provisionOnce

/-! ## Regions and data centers -/

/-- The GCE callbacks of the single-region loop, for the settings at entry. -/
def regionFallback (partialCleanup : Option (Query κ Unit)) (entry : Placement) :
    RegionFallback (World κ) where
  originalRegion := entry.configuredRegions.head?
  regionCandidates := regionCandidates.lift Query.lift
  provisionOnce := provisionOnce
  switchRegion := switchRegion
  restoreRegion :=
    restoreRegion entry.configuredRegions.head? entry.availabilityZone entry.envRegion
  cleanupRegion := fun region => Query.lift (cleanupRegion api partialCleanup region)
  isCapacityError := isCapacityError
  errorFactory := fun message => do
    record .exhausted
    pure (errorFactory message)

def provisionWithRegionFallback (partialCleanup : Option (Query κ Unit)) : Action κ Unit := do
  enforceSingleRegionGate
  let world ← get
  (regionFallback api regionCandidates provisionOnce errorFactory partialCleanup
    world.placement).run

/-- The names joined as `gce_datacenter` holds them, when there are any. -/
def joinedRegions (names : List String) : Option String :=
  if names.isEmpty then none else some (unwords names)

/-- The GCE callbacks of the multi-DC loop, for the settings at entry. -/
def dcFallback (partialCleanup : Option (Query κ Unit)) (entry : Placement) :
    DcFallback (World κ) where
  dcCandidates := fun dcIndex => (getDcFallbackCandidates api config dcIndex).lift Query.lift
  provisionOnce := provisionOnce
  failedDcIndex := fun exc => do
    let world ← get
    pure (failedDcIndex exc world.placement)
  switchDcRegion := switchDcRegion
  restore :=
    restoreRegion (joinedRegions entry.configuredRegions) entry.availabilityZone entry.envRegion
  cleanup := Query.lift (cleanupDatacenters api partialCleanup)
  isCapacityError := isCapacityError
  errorFactory := fun message => do
    record .exhausted
    pure (errorFactory message)

def provisionWithDcFallback (partialCleanup : Option (Query κ Unit)) (fuel : Nat) :
    Action κ (Option Unit) := do
  let world ← get
  (dcFallback api config provisionOnce errorFactory partialCleanup world.placement).run fuel

/-- `provision_with_fallback`: the multi-DC loop for several data centers, the single-region
loop otherwise. -/
def provisionWithFallback (partialCleanup : Option (Query κ Unit)) (fuel : Nat) :
    Action κ (Option Unit) := do
  let world ← get
  if 1 < world.placement.configuredRegions.length then
    provisionWithDcFallback api config provisionOnce errorFactory partialCleanup fuel
  else
    some <$> provisionWithRegionFallback api (getRegionFallbackCandidates api config)
      provisionOnce errorFactory partialCleanup

/-! ## Callers -/

/-- The innermost `provision_once`, recorded. -/
def innermost (step : ProvisionStep κ) : Action κ Unit := do
  record .provisionOnce
  step.action

/-- `_get_cluster_gce_once` of the legacy path: resolve the zones, then create the clusters. -/
def getClusterGceOnce (createClusters : ProvisionStep κ) : Action κ Unit := do
  resolve api config
  createClusters.action

end

end Sct.Gce
