import Mathlib.Data.List.Sort
import Sct.Provision.Aws.Cluster
import Sct.Provision.Common.RegionFallback

/-!
# Zones and fallback candidates on AWS

`AZResolver` of `sdcm/provision/aws/az_resolver.py`: the zone letters the cluster starts with, those
a capacity error moves it to, and the regions that take the place of that of a data center. What EC2
answers is a record of functions, and a zone is known by its letter.
-/

namespace Sct.Aws

/-- The parameters that name an instance type, in the order of `_INSTANCE_TYPE_PARAM_GATES`. -/
inductive InstanceTypeParam where
  | db
  | loader
  | monitor
  | zeroToken
  | oracle
  | dbTarget
  | growShrink
  | vectorStore
  deriving DecidableEq, Repr

def nodeCountPositive (value : Option NodeNums) : Bool :=
  (value.map NodeNums.toList).any fun nums => nums.any (0 < ·)

def nodeCountTotal (value : Option NodeNums) : Nat := ((value.map NodeNums.toList).getD []).sum

/-- The parameters the resolver reads and never writes. -/
structure ResolverConfig where
  /-- The instance type parameters; an empty text counts as unset. -/
  instanceType : InstanceTypeParam → String
  nDbNodes : Option NodeNums
  nLoaders : Option NodeNums
  nMonitorNodes : Option NodeNums
  nDbZeroTokenNodes : Option NodeNums
  nTestOracleDbNodes : Option NodeNums
  nVectorStoreNodes : Option NodeNums
  dbType : String
  useZeroNodes : Bool
  clusterBackend : String
  instanceProvision : String
  useSpotPlacementScores : Bool
  /-- `spot_placement_score_min`, 0 when unset. -/
  spotPlacementScoreMin : Int
  spotScoreOverridesConfiguredAz : Bool
  availabilityZoneExplicitlySet : Bool
  preFilterUnavailableAvailabilityZones : Bool
  useDnsNames : Bool

structure Ec2Answers where
  /-- `describe_instance_type_offerings`, of instance types in a region: the types with the letters
  of the zones that offer them. -/
  offerings : String → List String → Except Exc (List (String × String))
  /-- `get_scores` of so many instances of the types in the zones of a region, by letter. -/
  azScores : List String → Nat → String → List (String × Int)
  /-- `get_scores` of so many instances of the types in the regions. -/
  regionScores : List String → Nat → List String → List (String × Int)
  peered : String → String → Bool

namespace ResolverConfig

variable (config : ResolverConfig)

def hasZeroToken : Bool := config.useZeroNodes && nodeCountPositive config.nDbZeroTokenNodes

def hasOracle : Bool :=
  (config.dbType == "mixed_scylla" || config.dbType == "mixed_cassandra") &&
    nodeCountPositive config.nTestOracleDbNodes

/-- `_INSTANCE_TYPE_PARAM_GATES`: whether instances of the type are launched at all. -/
def instanceTypeParamGates : List (InstanceTypeParam × Bool) :=
  [(.db, true), (.loader, nodeCountPositive config.nLoaders),
    (.monitor, nodeCountPositive config.nMonitorNodes), (.zeroToken, config.hasZeroToken),
    (.oracle, config.hasOracle), (.dbTarget, true), (.growShrink, true),
    (.vectorStore, nodeCountPositive config.nVectorStoreNodes)]

/-- Append an instance type unless it is unset or listed already. -/
def selectType (selected : List String) (instanceType : String) : List String :=
  if instanceType ≠ "" ∧ instanceType ∉ selected then selected ++ [instanceType] else selected

def requiredInstanceTypes : List String :=
  config.instanceTypeParamGates.foldl (fun selected param =>
    if param.2 then selectType selected (config.instanceType param.1) else selected) []

def isSpotPlacementScoringEnabled : Bool :=
  config.useSpotPlacementScores && config.clusterBackend == "aws" &&
    config.instanceProvision != "on_demand"

def scoredInstanceTypes : List String :=
  [InstanceTypeParam.db, .zeroToken, .dbTarget].foldl
    (fun selected param => selectType selected (config.instanceType param)) []

def spotTargetCapacity : Nat :=
  max (nodeCountTotal config.nDbNodes +
    if config.hasZeroToken then nodeCountTotal config.nDbZeroTokenNodes else 0) 1

/-- `scored_role_requests`, without the role names that only the log prints. -/
def scoredRoleRequests : List (List String × Nat) :=
  let role (param : InstanceTypeParam) (count : Option NodeNums) : List (List String × Nat) :=
    if config.instanceType param ≠ "" ∧ 0 < nodeCountTotal count
    then [([config.instanceType param], nodeCountTotal count)] else []
  (config.scoredInstanceTypes, config.spotTargetCapacity) ::
    (role .loader config.nLoaders ++ role .monitor config.nMonitorNodes)

def scoreMayChooseAz : Bool :=
  config.isSpotPlacementScoringEnabled &&
    (config.spotScoreOverridesConfiguredAz || !config.availabilityZoneExplicitlySet)

end ResolverConfig

/-- `NoValidAvailabilityZoneError`. -/
def noValidAvailabilityZone (message : String) : Exc :=
  .raised (.other "NoValidAvailabilityZoneError") message

section

variable (answers : Ec2Answers) (config : ResolverConfig)

/-! ## Supported letters -/

/-- `get_common_availability_zones`: the zones of a region that offer all the types, the preferred
ones first. -/
def getCommonAvailabilityZones (region : String) (instanceTypes preferred : List String) :
    Except Exc (List String) :=
  match instanceTypes with
  | [] => pure []
  | first :: others => do
    let listed ← answers.offerings region (first :: others)
    let common := ((listed.filter fun offer => decide (offer.1 = first)).map Prod.snd).filter
      fun letter => others.all fun instanceType => decide ((instanceType, letter) ∈ listed)
    let ordered := preferred.filter fun letter => decide (letter ∈ common)
    pure (ordered ++ (sortTexts common.dedup).filter fun letter => decide (letter ∉ ordered))

/-- The letters that every one of the regions supports. -/
def intersectRegions (preferred instanceTypes : List String) :
    Option (List String) → List String → Except Exc (List String)
  | common, [] => pure (common.getD [])
  | common, region :: rest => do
    let letters ← getCommonAvailabilityZones answers region instanceTypes preferred
    let both := match common with
      | none => letters
      | some earlier => earlier.filter fun letter => decide (letter ∈ letters)
    intersectRegions preferred instanceTypes (some both) rest

/-- `_common_supported_letters`: the configured letters first, the others sorted. -/
def commonSupportedLetters (regions configuredLetters instanceTypes : List String) :
    Except Exc (List String) := do
  let common ← intersectRegions answers configuredLetters instanceTypes none regions
  let configuredFirst := configuredLetters.filter fun letter => decide (letter ∈ common)
  pure (configuredFirst ++
    sortTexts (common.filter fun letter => decide (letter ∉ configuredFirst)).dedup)

/-! ## Spot placement scores -/

/-- `by_letter`: a letter that is scored twice counts with its last score. -/
def byLetter (scores : List (String × Int)) (letter : String) : Option Int :=
  if letter = "" then none
  else (scores.reverse.find? fun item => decide (item.1 = letter)).map Prod.snd

/-- The worst score of each letter after the scores of one more role. -/
def lowerWorst (worst : String → Option Int) (scores : List (String × Int)) (letter : String) :
    Option Int :=
  match byLetter scores letter with
  | none => worst letter
  | some score => some (match worst letter with
    | none => score
    | some earlier => min earlier score)

/-- Ask for scores role by role; `none` when a role got none. -/
def worstByLetter (region : String) :
    List (List String × Nat) → (String → Option Int) → Option (String → Option Int)
  | [], worst => some worst
  | (instanceTypes, count) :: rest, worst =>
    if instanceTypes.isEmpty ∨ count < 1 then worstByLetter region rest worst
    else
      let scores := answers.azScores instanceTypes count region
      if scores.isEmpty then none else worstByLetter region rest (lowerWorst worst scores)

/-- `rank_az_letters_for_roles`, of letters; `none` when there is no ranking. -/
def rankAzLettersForRoles (roleRequests : List (List String × Nat)) (region : String)
    (azLetters : List String) (minScore : Int) : Option (List String) :=
  if azLetters.isEmpty then some []
  else
    match worstByLetter answers region roleRequests fun _ => none with
    | none => none
    | some worst =>
      -- `worst` is empty when no role got a score with a letter
      if roleRequests.all fun request => request.1.isEmpty || decide (request.2 < 1) ||
          (answers.azScores request.1 request.2 region).all fun item => item.1 == "" then none
      else
        let scored := azLetters.filter fun letter =>
          (worst letter).any fun score => decide (minScore ≤ score)
        let unscored := azLetters.filter fun letter => (worst letter).isNone
        some (bestFirst (fun letter => (worst letter).getD 0) scored ++ unscored)

/-- The text raised when too few zones reach the minimum. -/
def tooFewAzsMessage (region : String) (letters ranked : List String) (required : Nat) : String :=
  "Only " ++ toString ranked.length ++ " availability zone(s) in " ++ region ++
    " reached spot_placement_score_min=" ++ toString config.spotPlacementScoreMin ++ " for " ++
    formatList config.scoredInstanceTypes ++ ", but " ++ toString required ++
    " are needed (candidates were " ++ formatList letters ++ ", qualifying " ++
    formatList ranked ++ "); lower the threshold, diversify instance types, or pick another region."

def rankLettersBySpotScore (slots : Nat) (regions letters : List String) :
    Except Exc (List String) :=
  if letters.length < 2 ∨ config.isSpotPlacementScoringEnabled = false then pure letters
  else
    match regions with
    | [region] =>
      match rankAzLettersForRoles answers config.scoredRoleRequests region letters
          config.spotPlacementScoreMin with
      | none => pure letters
      | some ranked =>
        let required := min slots letters.length
        if ranked.length < required then
          throw (noValidAvailabilityZone (tooFewAzsMessage config region letters ranked required))
        else pure ranked
    | _ => pure letters

/-! ## Resolving `availability_zone` and falling back from it -/

/-- Fill the slots that are left with letters that are not listed yet. -/
def fillSlots (slots : Nat) : List String → List String → List String
  | kept, [] => kept
  | kept, letter :: rest =>
    if slots ≤ kept.length then kept
    else if letter ∈ kept then fillSlots slots kept rest
    else fillSlots slots (kept ++ [letter]) rest

/-- The text raised when no zone is left. -/
def noZoneMessage (instanceTypes regions : List String) : String :=
  "No availability zone supports all required instance types " ++ formatList instanceTypes ++
    " across regions " ++ formatList regions ++ "; cannot proceed with provisioning."

variable (placement : Placement)

/-- The letters `resolve` settles on; `none` when it leaves `availability_zone` alone. -/
def resolvedLetters : Except Exc (Option (List String)) :=
  let instanceTypes := config.requiredInstanceTypes
  let regions := placement.regionNames
  if !config.preFilterUnavailableAvailabilityZones || instanceTypes.isEmpty || regions.isEmpty then
    pure none
  else do
    let configured := placement.configuredAzLetters
    let supported ← commonSupportedLetters answers regions configured instanceTypes
    if supported.isEmpty then
      throw (noValidAvailabilityZone (noZoneMessage instanceTypes regions))
    else do
      let ranked ← rankLettersBySpotScore answers config configured.length regions supported
      pure (some (if config.scoreMayChooseAz then ranked.take configured.length
        else fillSlots configured.length
          (configured.filter fun letter => decide (letter ∈ supported)) ranked))

/-- `resolve`, as the value of `availability_zone` it leaves. -/
def resolvedAvailabilityZone : Except Exc (Option String) := do
  match ← resolvedLetters answers config placement with
  | none => pure placement.availabilityZone
  | some letters => pure (some (",".intercalate letters))

def supportedAzLetters : Except Exc (List String) :=
  let instanceTypes := config.requiredInstanceTypes
  let regions := placement.regionNames
  if instanceTypes.isEmpty || regions.isEmpty then pure placement.configuredAzLetters
  else commonSupportedLetters answers regions placement.configuredAzLetters instanceTypes

/-- The candidates after the first: another letter in one of the slots. -/
def replacements (primary supported : List String) : List (List String) :=
  (List.range primary.length).flatMap fun slot =>
    (supported.filter fun letter => decide (letter ∉ primary)).map fun letter =>
      primary.set slot letter

def getFallbackCandidates : Except Exc (List (List String)) :=
  let configured := placement.configuredAzLetters
  if configured.isEmpty then pure []
  else do
    let supported ← supportedAzLetters answers config placement
    if supported.isEmpty then pure [configured]
    else do
      let ranked ← rankLettersBySpotScore answers config configured.length placement.regionNames
        supported
      let primary := if config.scoreMayChooseAz then ranked.take configured.length
        else fillSlots configured.length
          (configured.filter fun letter => decide (letter ∈ ranked)) ranked
      if primary.isEmpty then pure [configured]
      else pure (primary :: replacements primary ranked).eraseDups

/-! ## Data centers -/

def rankRegions (instanceTypes : List String) (targetCapacity : Nat) (regions : List String) :
    List String :=
  let scores := answers.regionScores instanceTypes targetCapacity regions
  if regions.isEmpty ∨ scores.isEmpty then regions
  else
    let score (region : String) : Option Int :=
      (scores.reverse.find? fun item => decide (item.1 = region)).map Prod.snd
    bestFirst (fun region => (score region).getD 0)
        (regions.filter fun region => (score region).isSome) ++
      regions.filter fun region => (score region).isNone

def orderedFallbackRegions (exclude : List String) : List String :=
  let regions := awsSupportedRegions.filter fun region => decide (region ∉ exclude)
  if config.isSpotPlacementScoringEnabled = false ∨ regions.length < 2 then regions
  else
    let ranked := rankRegions answers config.scoredInstanceTypes config.spotTargetCapacity regions
    if ranked.isEmpty then regions else ranked

/-- The types `get_dc_fallback_candidates` asks a region for. -/
def ResolverConfig.dbInstanceTypes : List String :=
  ResolverConfig.selectType [] (config.instanceType .db)

/-- Go through the regions a data center may move to. -/
def qualifyRegions (stayingRegions configuredLetters : List String) :
    List String → Except Exc (List Candidate)
  | [] => pure []
  | region :: rest =>
    if !(stayingRegions.all fun staying => answers.peered staying region) then
      qualifyRegions stayingRegions configuredLetters rest
    else do
      let required := if configuredLetters.isEmpty then 1 else configuredLetters.length
      let supported ← commonSupportedLetters answers [region] configuredLetters
        config.dbInstanceTypes
      let others ← qualifyRegions stayingRegions configuredLetters rest
      pure (if supported.length < required then others
        else (region, supported.take required) :: others)

def getDcFallbackCandidates (dcIndex : Nat) : Except Exc (List Candidate) :=
  let names := placement.regionNames
  if config.useDnsNames || decide (names.length ≤ dcIndex) then pure []
  else
    qualifyRegions answers config (names.eraseIdx dcIndex) placement.configuredAzLetters
      (orderedFallbackRegions answers config names)

end

end Sct.Aws
