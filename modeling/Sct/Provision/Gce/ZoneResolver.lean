import Mathlib.Algebra.Order.Ring.Int
import Mathlib.Algebra.Order.Ring.Unbundled.Rat
import Mathlib.Data.List.Sort
import Sct.Provision.Gce.World

/-!
# Zones and fallback candidates on GCE

`GceAZResolver` of `sdcm/provision/gce/zone_resolver.py`, with what it uses of
`GceZoneResolver` and of the capacity advisor. It answers three questions: which zone letters the
configured regions have in common for all machine types (`resolve`), which other regions or zones
a fallback may move to, and in which order. Questions to the cloud are the fields of `Api`.
Obtainability scores are rationals.
-/

open Sct.Effect

namespace Sct.Gce

/-- A node count parameter: a number, or one for each region. -/
inductive NodeCount where
  | unset
  | number (count : Int)
  | perRegion (counts : List Int)
  deriving DecidableEq, Repr

/-- `_node_count_positive`. -/
def NodeCount.positive : NodeCount → Bool
  | .unset => false
  | .number count => 0 < count
  | .perRegion counts => counts.any (0 < ·)

/-- `_node_count_total`. -/
def NodeCount.total : NodeCount → Int
  | .unset => 0
  | .number count => count
  | .perRegion counts => counts.sum

/-- The parameters that name a machine type, in the order of `_MACHINE_TYPE_PARAM_GATES`. -/
inductive MachineTypeParam where
  | db
  | loader
  | monitor
  | zeroToken
  | oracle
  | dbTarget
  | growShrink
  | vectorStore
  deriving DecidableEq, Repr

/-- The parameters that provisioning reads and never writes. -/
structure Config where
  /-- The machine type parameters; an empty text counts as unset. -/
  machineType : MachineTypeParam → String
  nDbNodes : NodeCount
  nLoaders : NodeCount
  nMonitorNodes : NodeCount
  nTestOracleDbNodes : NodeCount
  nDbZeroTokenNodes : NodeCount
  nVectorStoreNodes : NodeCount
  dbType : String
  useZeroNodes : Bool
  clusterBackend : String
  instanceProvision : String
  useSpotPlacementScores : Bool
  gceSpotObtainabilityMin : Option Rat
  spotScoreOverridesConfiguredAz : Bool
  availabilityZoneExplicitlySet : Bool
  preFilterUnavailableAvailabilityZones : Bool
  fallbackToNextAvailabilityZone : Option Bool
  awsFallbackToNextAvailabilityZone : Bool

structure Api (κ : Type) where
  getZonesForRegion : String → EStateM Exc κ (List String)
  getZonesForMachineType : String → String → EStateM Exc κ (List String)
  /-- `get_zone_advice`: the obtainability of the given number of the machine types in each
  zone of a region that got advice. -/
  getZoneAdvice : List String → Int → String → List String → EStateM Exc κ (List (String × Rat))
  /-- `random.choice`, as the position it picks in a list of the given length. -/
  randomChoice : Nat → EStateM Exc κ Nat
  zonesWithInstances : EStateM Exc κ (List String)
  /-- Delete the instances of this test in a zone and wait until they are gone. -/
  cleanupZone : String → EStateM Exc κ Unit

def supportedGceRegions : List String := ["us-east1", "us-east4", "us-west1", "us-central1"]

namespace Config

variable (config : Config)

def hasZeroToken : Bool :=
  config.useZeroNodes && config.nDbZeroTokenNodes.positive

def hasOracle : Bool :=
  (config.dbType == "mixed_scylla" || config.dbType == "mixed_cassandra") &&
    config.nTestOracleDbNodes.positive

/-- `_MACHINE_TYPE_PARAM_GATES`: whether machines of the type are launched at all. -/
def machineTypeParamGates : List (MachineTypeParam × Bool) :=
  [(.db, true), (.loader, config.nLoaders.positive), (.monitor, config.nMonitorNodes.positive),
    (.zeroToken, config.hasZeroToken), (.oracle, config.hasOracle), (.dbTarget, true),
    (.growShrink, true), (.vectorStore, config.nVectorStoreNodes.positive)]

/-- Append a machine type unless it is unset or listed already. -/
def selectType (selected : List String) (machineType : String) : List String :=
  if machineType ≠ "" ∧ machineType ∉ selected then selected ++ [machineType] else selected

def requiredMachineTypes : List String :=
  config.machineTypeParamGates.foldl
    (fun selected param => if param.2 then selectType selected (config.machineType param.1)
      else selected) []

def isCapacityAdviceEnabled : Bool :=
  config.useSpotPlacementScores && config.clusterBackend == "gce" &&
    config.instanceProvision != "on_demand"

def isAzFallbackEnabled : Bool :=
  config.fallbackToNextAvailabilityZone.getD config.awsFallbackToNextAvailabilityZone

def advisedMachineTypes : List String :=
  [MachineTypeParam.db, .zeroToken, .dbTarget].foldl
    (fun selected param => selectType selected (config.machineType param)) []

def advisedSize : Int :=
  let zeroToken := if config.hasZeroToken then config.nDbZeroTokenNodes.total else 0
  max (config.nDbNodes.total + zeroToken) 1

/-- `advised_role_requests`, without the role names that only the log prints. -/
def advisedRoleRequests : List (List String × Int) :=
  let role (param : MachineTypeParam) (count : NodeCount) : List (List String × Int) :=
    if config.machineType param ≠ "" ∧ 0 < count.total
    then [([config.machineType param], count.total)] else []
  (config.advisedMachineTypes, config.advisedSize) ::
    (role .loader config.nLoaders ++ role .monitor config.nMonitorNodes)

def scoreMayChooseAz : Bool :=
  config.isCapacityAdviceEnabled &&
    (config.spotScoreOverridesConfiguredAz || !config.availabilityZoneExplicitlySet)

end Config

/-- The letter of a zone: what follows its last dash. -/
def zoneLetter (zone : String) : String := ((splitOn '-' zone).getLast?).getD ""

def zoneName (region letter : String) : String := region ++ "-" ++ letter

section

variable {κ : Type} (api : Api κ) (config : Config)

/-- `get_common_zones`: the zones of a region that have all the machine types, the preferred ones
first. -/
def getCommonZones (region : String) (machineTypes preferredZones : List String) :
    EStateM Exc κ (List String) := do
  if machineTypes.isEmpty then pure []
  else do
    let zonesPerType ← machineTypes.mapM (api.getZonesForMachineType region)
    let commonZones := ((zonesPerType.head?.getD []).filter fun zone =>
      zonesPerType.all fun zones => zones.contains zone).eraseDups
    let preferred := preferredZones.filter fun zone => commonZones.contains zone
    pure (preferred ++ (sortTexts commonZones).filter fun zone => !preferred.contains zone)

/-- Intersect the letters found in a region with those of the regions before it. -/
def intersectLetters (common : Option (List String)) (letters : List String) : List String :=
  match common with
  | none => letters
  | some earlier => earlier.filter fun letter => letters.contains letter

/-- The zone letters that every region supports, given the zones to prefer in each. -/
def commonLetters (machineTypes : List String) (preferred : String → EStateM Exc κ (List String))
    (regionNames : List String) : EStateM Exc κ (List String) := do
  let common ← regionNames.foldlM (fun common region => do
    let zones ← preferred region
    let supported ← getCommonZones api region machineTypes zones
    pure (some (intersectLetters common (supported.map zoneLetter).eraseDups))) none
  pure (common.getD [])

/-- `_common_supported_letters`: the configured letters first, the others sorted. -/
def commonSupportedLetters (regionNames configuredLetters machineTypes : List String) :
    EStateM Exc κ (List String) := do
  let common ← commonLetters api machineTypes
    (fun region => pure (configuredLetters.map (zoneName region))) regionNames
  let configuredFirst := configuredLetters.filter fun letter => common.contains letter
  pure (configuredFirst ++
    sortTexts (common.filter fun letter => !configuredFirst.contains letter))

def discoverValidZoneLetters (regionNames machineTypes : List String) :
    EStateM Exc κ (List String) := do
  let common ← commonLetters api machineTypes api.getZonesForRegion regionNames
  pure (sortTexts common)

/-- The scores by which regions are ranked: the best zone of each region that got advice. -/
def regionScores (regions : List String) (zonesPerRegion : List (String × List String)) :
    EStateM Exc κ (List (String × Rat)) :=
  regions.foldlM (fun best region => do
    let zones := (zonesPerRegion.lookup region).getD []
    if zones.isEmpty then pure best
    else do
      match ← api.getZoneAdvice config.advisedMachineTypes config.advisedSize region zones with
      | [] => pure best
      | first :: others =>
        pure (best ++ [(region, (others.map Prod.snd).foldl max first.2)])) []

def rankRegions (regions : List String) (zonesPerRegion : List (String × List String)) :
    EStateM Exc κ (Option (List String)) := do
  if regions.isEmpty then pure (some [])
  else do
    let best ← regionScores api config regions zonesPerRegion
    if best.isEmpty then pure none
    else
      let scored := regions.filter fun region => (best.lookup region).isSome
      let unscored := regions.filter fun region => (best.lookup region).isNone
      pure (some (bestFirst (fun region => (best.lookup region).getD 0) scored ++ unscored))

def orderedFallbackRegions (exclude : List String) : EStateM Exc κ (List String) := do
  let regions := supportedGceRegions.filter fun region => !exclude.contains region
  if !config.isCapacityAdviceEnabled || decide (regions.length < 2) ||
      config.advisedMachineTypes.isEmpty then pure regions
  else do
    let zonesPerRegion ← regions.mapM fun region => do
      let zones ← api.getZonesForRegion region
      pure (region, zones)
    match ← rankRegions api config regions zonesPerRegion with
    | none => pure regions
    | some ranked => pure (if ranked.isEmpty then regions else ranked)

/-! ## Fallback candidates -/

variable (configuredLetters : List String)

/-- The number of zones a candidate region has to supply. -/
def cardinality : Nat :=
  if configuredLetters.isEmpty then 1 else configuredLetters.length

def getRegionFallbackCandidates : Generator (Query κ) Candidate where
  start := fun placement =>
    match placement.regionNames with
    | [] => pure []
    | currentRegion :: _ => do
      let configuredLetters := placement.configuredAzLetters
      let regions ← orderedFallbackRegions api config [currentRegion]
      pure (regions.map fun region _ => do
        let letters ← commonSupportedLetters api [region] configuredLetters
          config.requiredMachineTypes
        if letters.length < cardinality configuredLetters then pure none
        else pure (some (region, letters.take (cardinality configuredLetters))))

/-- Look at one region on behalf of a data center: it is skipped when a data center occupies it
now, or lacks the configured letters. -/
def probeDcRegion (region : String) :
    Query κ (Option Candidate) := fun placement => do
  if placement.regionNames.contains region then pure none
  else do
    let letters ← commonSupportedLetters api [region] configuredLetters
      config.requiredMachineTypes
    if !configuredLetters.isEmpty then
      if configuredLetters.any fun letter => !letters.contains letter then pure none
      else pure (some (region, configuredLetters))
    else if letters.length < cardinality configuredLetters then pure none
    else pure (some (region, letters.take (cardinality configuredLetters)))

def getDcFallbackCandidates (dcIndex : Nat) : Generator (Query κ) Candidate where
  start := fun placement => do
    if placement.regionNames.length ≤ dcIndex then pure []
    else do
      let regions ← orderedFallbackRegions api config []
      pure (regions.map (probeDcRegion api config placement.configuredAzLetters))

def getAzFallbackCandidates : Generator (Query κ) (List String) where
  start := fun placement => do
    let configuredLetters := placement.configuredAzLetters
    if configuredLetters.length ≠ 1 || placement.regionNames.isEmpty then pure []
    else do
      let letters ← commonSupportedLetters api placement.regionNames configuredLetters
        config.requiredMachineTypes
      pure (letters.map fun letter _ =>
        pure (if configuredLetters.contains letter then none else some [letter]))

/-! ## Resolving `availability_zone` -/

def noValidAvailabilityZoneError (message : String) : Exc :=
  .raised (.other "NoValidAvailabilityZoneError") message

/-- The worst score of each letter after one more role got advice: a letter that is advised on
twice counts with its last score. -/
def lowerScores (worst : String → Option Rat) (advice : List (String × Rat)) (letter : String) :
    Option Rat :=
  match advice.reverse.find? (fun item => zoneLetter item.1 = letter) with
  | none => worst letter
  | some item => some (match worst letter with
    | none => item.2
    | some earlier => min earlier item.2)

/-- Ask for advice role by role; `none` when a role got none, and `some none` when no role asked
for machines. -/
def worstScores (region : String) (zoneLetters : List String) :
    List (List String × Int) → Option (String → Option Rat) →
      EStateM Exc κ (Option (Option (String → Option Rat)))
  | [], worst => pure (some worst)
  | (machineTypes, count) :: rest, worst => do
    if machineTypes.isEmpty || decide (count < 1) then worstScores region zoneLetters rest worst
    else do
      let advice ← api.getZoneAdvice machineTypes count region
        (zoneLetters.map (zoneName region))
      let lowered := lowerScores (worst.getD fun _ => none) advice
      if advice.isEmpty then pure none else worstScores region zoneLetters rest (some lowered)

def rankZoneLettersForRoles (roleRequests : List (List String × Int)) (region : String)
    (zoneLetters : List String) (minObtainability : Rat) :
    EStateM Exc κ (Option (List String)) := do
  if zoneLetters.isEmpty then pure (some [])
  else do
    match ← worstScores api region zoneLetters roleRequests none with
    | none => pure none
    | some none => pure none
    | some (some worst) =>
      let scored := zoneLetters.filter fun letter =>
        (worst letter).any fun score => minObtainability ≤ score
      let unscored := zoneLetters.filter fun letter => (worst letter).isNone
      pure (some (bestFirst (fun letter => (worst letter).getD 0) scored ++ unscored))

/-- `_rank_letters_by_capacity_advice`: `none` where the source returns its argument itself. -/
def rankLettersByCapacityAdvice (regions letters : List String) : Query κ (Option (List String)) :=
  fun placement => do
    match regions with
    | [region] =>
      if decide (letters.length < 2) || !config.isCapacityAdviceEnabled ||
          config.advisedMachineTypes.isEmpty then pure none
      else do
        match ← rankZoneLettersForRoles api config.advisedRoleRequests region letters
            (config.gceSpotObtainabilityMin.getD 0) with
        | none => pure none
        | some ranked => do
          let required := max 1 (min placement.configuredAzLetters.length letters.length)
          if ranked.length < required then
            throw (noValidAvailabilityZoneError
              ("Only " ++ toString ranked.length ++ " zone(s) in " ++ region ++
                " reached gce_spot_obtainability_min=" ++
                toString (config.gceSpotObtainabilityMin.getD 0) ++ " for " ++
                formatList config.advisedMachineTypes ++ ", but " ++ toString required ++
                " are needed (candidates were " ++ formatList letters ++ ", qualifying " ++
                formatList ranked ++ "); lower the threshold, use machine types available in " ++
                "more zones, or pick another region."))
          else pure (some ranked)
    | _ => pure none

def buildNoZoneError (regions machineTypes : List String) : EStateM Exc κ String := do
  let lines ← regions.mapM fun region => machineTypes.mapM fun machineType => do
    let zones ← api.getZonesForMachineType region machineType
    pure (if zones.isEmpty then "  " ++ machineType ++ " in " ++ region ++
        ": NOT AVAILABLE in any zone"
      else "  " ++ machineType ++ " in " ++ region ++ ": available in zones " ++
        formatList (zones.map zoneLetter))
  pure ("\n".intercalate (("No zone supports all required machine types across regions " ++
    formatList regions ++ ".") :: lines.flatten))

/-- Fill the zone slots: the configured letters that are supported, then others in rank order. -/
def fillZoneSlots (slots : Nat) (kept ranked : List String) : List String :=
  kept ++ ((ranked.filter fun letter => !kept.contains letter).eraseDups).take
    (slots - kept.length)

/-- The text raised when too few zones support the machine types. -/
def tooFewZonesMessage (resolved machineTypes regions : List String) : String :=
  "availability_zone '" ++ ",".intercalate configuredLetters ++ "' requests " ++
    toString configuredLetters.length ++ " zone(s), but only " ++ toString resolved.length ++
    " ('" ++ ",".intercalate resolved ++ "') support all required machine types " ++
    formatList machineTypes ++ " in every region of " ++ formatList regions ++
    ". Reduce availability_zone, drop a region, or use machine types available in more zones."

/-- The value `resolve` picks when no zone is configured. -/
def pickZone (regions machineTypes : List String) : Query κ String := fun placement => do
  let validLetters ← discoverValidZoneLetters api regions machineTypes
  if validLetters.isEmpty then
    throw (noValidAvailabilityZoneError (← buildNoZoneError api regions machineTypes))
  else do
    match ← rankLettersByCapacityAdvice api config regions validLetters placement with
    | some ranked => pure (ranked.headD "")
    | none => do
      let position ← api.randomChoice validLetters.length
      pure (validLetters.getD (position % validLetters.length) "")

/-- The value `resolve` makes of the configured zones. -/
def replaceZones (regions machineTypes : List String) : Query κ String := fun placement => do
  let configuredLetters := placement.configuredAzLetters
  let supportedLetters ← commonSupportedLetters api regions configuredLetters machineTypes
  if supportedLetters.isEmpty then
    throw (noValidAvailabilityZoneError (← buildNoZoneError api regions machineTypes))
  else do
    let ranking ← rankLettersByCapacityAdvice api config regions supportedLetters placement
    let rankedLetters := ranking.getD supportedLetters
    let resolved := if config.scoreMayChooseAz then rankedLetters.take configuredLetters.length
      else fillZoneSlots configuredLetters.length
        (configuredLetters.filter fun letter => supportedLetters.contains letter) rankedLetters
    if resolved.length < configuredLetters.length then
      throw (noValidAvailabilityZoneError
        (tooFewZonesMessage configuredLetters resolved machineTypes regions))
    else pure (",".intercalate resolved)

/-- `resolve`, as the value of `availability_zone` it leaves. -/
def resolvedAvailabilityZone : Query κ (Option String) := fun placement => do
  let machineTypes := config.requiredMachineTypes
  let regions := placement.regionNames
  if !config.preFilterUnavailableAvailabilityZones || machineTypes.isEmpty || regions.isEmpty then
    pure placement.availabilityZone
  else if placement.configuredAzLetters.isEmpty then
    some <$> pickZone api config regions machineTypes placement
  else some <$> replaceZones api config regions machineTypes placement

def resolve : Action κ Unit := do
  let value ← Query.lift (resolvedAvailabilityZone api config)
  writeAvailabilityZone value

end

end Sct.Gce
