import Sct.Provision.Aws.RegionFallback

/-!
# The AWS provisioning layout

`sdcm/sct_provision/aws/layout.py`. The zone resolver, the reservations and the clusters are fields
of `Layout`. The outcome of an attempt is the pair the source returns: whether the region is
exhausted, and the last error.
-/

open Sct.Effect

namespace Sct.Aws

structure Layout (κ : Type) where
  resolve : ZoneStep κ Unit
  getFallbackCandidates : Query κ (List (List String))
  getRegionFallbackCandidates : Query κ (List Candidate)
  getPreferredSpotRegion : Query κ (Option Candidate)
  getDcFallbackCandidates : Nat → Query κ (List Candidate)
  runPreFlightCapacityProbe : Query κ Unit
  provisionPlacementGroup : Query κ Unit
  reserveCapacity : ZoneStep κ Unit
  reserveHosts : ZoneStep κ Unit
  /-- `db_cluster.provision`, without the regions of the given indices. -/
  provisionDb : List Nat → Query κ Unit
  provisionMonitors : Query κ Unit
  provisionLoaders : Query κ Unit
  /-- `cs_db_cluster.provision`, when there is one. -/
  provisionCsDb : Query κ Unit
  cleanupPartialProvision : Query κ Unit
  /-- Terminate and forget what the clusters have in a region: `_cleanup_dc_region` up to its
  last call. -/
  terminateDcInstances : String → Query κ Unit
  provisionedDbRegions : κ → List String
  clearClusterCaches : κ → κ
  invalidateRegionDerivedCaches : κ → κ

namespace Config

def isCapacityReservationEnabled (config : Config) : Bool :=
  let isSingleDc := (config.nDbNodes.map List.length == some 1) || 0 < config.simulatedRegions
  config.clusterBackend == "aws" && (truthy config.testId).isSome && !config.reuseCluster &&
    config.useCapacityReservation && config.instanceProvision == "on_demand" && isSingleDc

def isAzFallbackEnabled (config : Config) : Bool :=
  config.fallbackToNextAvailabilityZone.getD config.awsFallbackToNextAvailabilityZone

def isRegionFallbackEnabled (config : Config) : Bool :=
  config.fallbackToNextRegion && ["aws", "gce"].contains config.clusterBackend

end Config

namespace Layout

variable {κ : Type} (layout : Layout κ) (config : Config) (api : Api κ)

/-- What `except (ClientError, ProvisioningCapacityExhausted)` does not raise again. -/
def isCapacityFailure (exc : Exc) : Bool :=
  match exc.cls with
  | .provisioningCapacityExhausted => true
  | .clientError _ => isCapacityError exc
  | _ => false

/-- What `_attempt_region` does not raise again when capacity is reserved. -/
def isReservationFailure (exc : Exc) : Bool :=
  exc.cls = .capacityReservationError || isCapacityFailure exc

def doProvision : Action κ Unit := do
  layout.runPreFlightCapacityProbe.lift
  layout.provisionPlacementGroup.lift
  layout.reserveCapacity.lift
  layout.reserveHosts.lift
  if config.clusterBackend ≠ "xcloud" ∧ truthy config.xcloudProvider = none then
    (layout.provisionDb []).lift
  layout.provisionMonitors.lift
  layout.provisionLoaders.lift
  layout.provisionCsDb.lift

/-- Provision, and return the exception when it is one of those given. -/
def provisionUnless (absorbed : Exc → Bool) : Action κ (Bool × Option Exc) :=
  tryCatch (do layout.doProvision config; pure (false, none)) fun exc =>
    if absorbed exc then pure (true, some exc) else throw exc

def provisionCapacityAware : Action κ (Bool × Option Exc) :=
  layout.provisionUnless config isCapacityFailure

/-- One iteration of `_provision_az_loop`: the number of attempts before it and the last error. -/
def azAttempt (carried : Nat × Option Exc) (candidate : List String) :
    Action κ ((Nat × Option Exc) ⊕ Option Exc) := do
  writeAvailabilityZone (some (",".intercalate candidate))
  if 0 < carried.1 then modifyCloud layout.clearClusterCaches
  match ← layout.provisionUnless config isCapacityFailure with
  | (true, lastError) => do
    layout.cleanupPartialProvision.lift
    pure (.inl (carried.1 + 1, lastError))
  | (false, _) => pure (.inr carried.2)

def provisionAzLoop (candidates : List (List String)) : Action κ (Bool × Option Exc) := do
  let entry ← get
  match ← foldUntil (layout.azAttempt config) (0, none) candidates with
  | .inr lastError => pure (false, lastError)
  | .inl (_, lastError) => do
    writeAvailabilityZone entry.settings.placement.availabilityZone
    pure (true, lastError)

def provisionOnce : Action κ Unit := do
  layout.resolve.lift
  if config.isCapacityReservationEnabled || !config.isAzFallbackEnabled then
    layout.doProvision config
  else do
    let candidates ← layout.getFallbackCandidates.lift
    if candidates = [] then layout.doProvision config
    else do
      let outcome ← layout.provisionAzLoop config candidates
      if outcome.1 then
        throw (.raised .runtimeError ("Provisioning failed in all " ++ candidates.length.repr ++
          " AZ candidate(s): " ++ ", ".intercalate (candidates.map fun letters =>
            "+".intercalate letters)))

def attemptRegion : Action κ (Bool × Option Exc) := do
  layout.resolve.lift
  if config.isCapacityReservationEnabled then layout.provisionUnless config isReservationFailure
  else if !config.isAzFallbackEnabled then layout.provisionCapacityAware config
  else do
    let candidates ← layout.getFallbackCandidates.lift
    if candidates = [] then layout.provisionCapacityAware config
    else layout.provisionAzLoop config candidates

/-! ## One region -/

def switchRegion (region : String) (azLetters : List String) (sourceRegion : Option String) :
    Action κ Unit :=
  Aws.switchRegion config api region azLetters sourceRegion layout.clearClusterCaches

def relocateToPreferredSpotRegion : Action κ Unit := do
  match ← layout.getPreferredSpotRegion.lift with
  | none => pure ()
  | some (targetRegion, azLetters) => do
    let world ← get
    let sourceRegion := world.settings.placement.configuredRegions.head?
    tryCatch (layout.switchRegion config api targetRegion azLetters sourceRegion) fun _ => pure ()

def cleanupRegion (region : Option String) : Action κ Unit :=
  (Aws.cleanupRegion config api region layout.cleanupPartialProvision).lift

/-- `_restore_region`, of the settings at entry. -/
def restoreEntry (entry : Placement) : Action κ Unit :=
  restoreRegion entry.configuredRegions.head? entry.availabilityZone entry.envRegion

/-- Make the next region current: the first attempt stays, a candidate is switched to. A
candidate without AMIs is skipped, with the error that says so. -/
def enterRegion (sourceRegion : Option String) :
    Option Candidate → Action κ (Exc ⊕ Option String)
  | none => pure (.inr sourceRegion)
  | some (targetRegion, azLetters) =>
    tryCatch (do
      layout.switchRegion config api targetRegion azLetters sourceRegion
      pure (.inr (some targetRegion))) fun exc =>
        if exc.cls = .regionAMINotFoundError then pure (.inl exc) else throw exc

/-- What `_provision_with_region_fallback` does in the region it entered. -/
def tryRegion (entry : Placement) (sourceRegion : Option String) (lastError : Option Exc) :
    Action κ ((Option String × Option Exc) ⊕ Unit) := do
  match ← restoringOnRaise (restoreEntry entry) (layout.attemptRegion config) with
  | (false, _) => pure (.inr ())
  | (true, attemptError) => do
    layout.cleanupRegion config api sourceRegion
    pure (.inl (sourceRegion, attemptError.orElse fun _ => lastError))

/-- One iteration of `_provision_with_region_fallback`: the current region and the last error. -/
def regionAttempt (entry : Placement) (carried : Option String × Option Exc)
    (candidate : Option Candidate) : Action κ ((Option String × Option Exc) ⊕ Unit) := do
  match ← layout.enterRegion config api carried.1 candidate with
  | .inl exc => pure (.inl (carried.1, some exc))
  | .inr sourceRegion => layout.tryRegion config api entry sourceRegion carried.2

/-- The text of the exception raised when no region is left. -/
def regionsExhausted (originalRegion : Option String) (regionCandidates : List Candidate) : Exc :=
  let tried := ", ".intercalate (regionCandidates.map Prod.fst)
  .raised .runtimeError ("Provisioning failed in region '" ++ formatOptional originalRegion ++
    "' and all fallback candidates [" ++ (if tried = "" then "(no eligible candidates)" else tried)
    ++ "]")

/-- The region the loop starts from: the upfront relocation may have changed it. -/
def startRegion (entry : Placement) (ready : World κ) : Option String :=
  ready.settings.placement.configuredRegions.head?.orElse fun _ => entry.configuredRegions.head?

/-- `_provision_with_region_fallback` after the upfront relocation. -/
def fallbackFrom (entry : Placement) : Action κ Unit := do
  let ready ← get
  let regionCandidates ← layout.getRegionFallbackCandidates.lift
  match ← foldUntil (layout.regionAttempt config api entry) (startRegion entry ready, none)
      (none :: regionCandidates.map some) with
  | .inr () => pure ()
  | .inl _ => do
    restoreEntry entry
    throw (regionsExhausted entry.configuredRegions.head? regionCandidates)

def provisionWithRegionFallback : Action κ Unit := do
  enforceSingleRegionGate
  let entry ← get
  layout.relocateToPreferredSpotRegion config api
  layout.fallbackFrom config api entry.settings.placement

/-! ## Several data centers -/

abbrev TriedByDc := Nat → List String

def completedDbRegionIds (world : World κ) : List Nat :=
  let regionNames := world.settings.placement.configuredRegions
  (layout.provisionedDbRegions world.cloud).filterMap fun region => regionNames.idxOf? region

def cleanupDcRegion (region : String) : Query κ Unit := do
  layout.terminateDcInstances region
  cleanupAbandonedRegion config api region

/-- One iteration over the candidates of a data center: the regions tried so far. -/
def tryDcCandidate (dcIndex : Nat) (failedRegion : String) (tried : List String)
    (target : String) : Action κ (List String ⊕ List String) :=
  tryCatch (do
    switchDcRegion config api dcIndex target failedRegion layout.invalidateRegionDerivedCaches
    pure (.inr (tried ++ [target]))) fun exc =>
      if exc.cls = .regionAMINotFoundError then pure (.inl (tried ++ [target])) else throw exc

/-- The text of the exception raised when a data center has no region left. -/
def dcExhausted (dcIndex : Nat) (failedRegion : String) (tried : List String) : Exc :=
  .raised .runtimeError ("DB DC '" ++ failedRegion ++ "' (index " ++ dcIndex.repr ++
    ") exhausted; no eligible fallback region (tried: " ++
    formatList (tried.dedup.mergeSort (fun left right => decide (left ≤ right))) ++ ")")

def relocateFailedDbDc (exc : Exc) (triedByDc : TriedByDc) : Action κ TriedByDc := do
  let world ← get
  match exc.failedRegion.bind fun region =>
      (world.settings.placement.configuredRegions.idxOf? region).map fun index =>
        (region, index) with
  | none => throw exc
  | some (failedRegion, dcIndex) => do
    (layout.cleanupDcRegion config api failedRegion).lift
    let tried := triedByDc dcIndex ++ [failedRegion]
    let candidates ← (layout.getDcFallbackCandidates dcIndex).lift
    let targets := (candidates.map Prod.fst).filter fun region => region ∉ tried
    match ← foldUntil (layout.tryDcCandidate config api dcIndex failedRegion) tried targets with
    | .inr reached => pure (Function.update triedByDc dcIndex reached)
    | .inl reached => throw (dcExhausted dcIndex failedRegion reached)

/-- One iteration of `_provision_db_with_dc_fallback`. -/
def dbAttempt (triedByDc : TriedByDc) : Action κ (TriedByDc ⊕ Unit) := do
  let world ← get
  let failure ← tryCatch
    (do (layout.provisionDb (layout.completedDbRegionIds world)).lift; pure none)
    fun exc => if isCapacityFailure exc then pure (some exc) else throw exc
  match failure with
  | none => pure (.inr ())
  | some exc => Sum.inl <$> layout.relocateFailedDbDc config api exc triedByDc

/-- `_provision_db_with_dc_fallback`, for so many attempts at most; `none` when they were not
enough. -/
def provisionDbWithDcFallback (fuel : Nat) : Action κ (Option Unit) :=
  repeatUntil (layout.dbAttempt config api) fuel fun _ => []

def restoreRegionNames (entry : Placement) : Action κ Unit := do
  record fun world => .restore world.settings
  writePlacement fun _ =>
    { entry with region := some (unwords entry.configuredRegions) }

def provisionWithMultiDcFallback (fuel : Nat) : Action κ (Option Unit) := do
  enforceMultiDcFallbackSupported config
  let entry ← get
  restoringOnRaise (restoreRegionNames entry.settings.placement) do
    layout.resolve.lift
    layout.runPreFlightCapacityProbe.lift
    layout.provisionPlacementGroup.lift
    match ← layout.provisionDbWithDcFallback config api fuel with
    | none => pure none
    | some () => do
      layout.provisionMonitors.lift
      layout.provisionLoaders.lift
      layout.provisionCsDb.lift
      pure (some ())

def provision (fuel : Nat) : Action κ (Option Unit) := do
  if config.isRegionFallbackEnabled then do
    let world ← get
    if 1 < world.settings.placement.configuredRegions.length then
      layout.provisionWithMultiDcFallback config api fuel
    else some <$> layout.provisionWithRegionFallback config api
  else some <$> layout.provisionOnce config

end Layout

end Sct.Aws
