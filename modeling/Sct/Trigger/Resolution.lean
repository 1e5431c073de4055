import Sct.Trigger.Matrix

/-!
# Which build a job is triggered with

The lookup side of the trigger matrix: the target a job's images are looked up in
(`target_for_job` of `sdcm/utils/trigger_matrix/resolution.py` with `_backend_region` of
`backends.py`), and the build picked for every target (`resolve_versions_for_targets`). What the
clouds publish is given by `Images`; what `json.loads` makes of a list of regions is given by a
function.
-/

namespace Sct.Trigger

/-! ## Backends and jobs -/

inductive Backend where
  | aws
  | gce
  | azure
  | docker
  | oci
  deriving DecidableEq, Repr

def Backend.name : Backend → String
  | aws => "aws"
  | gce => "gce"
  | azure => "azure"
  | docker => "docker"
  | oci => "oci"

/-- `backend in REGIONAL_BACKENDS`. -/
def Backend.regional : Backend → Bool
  | aws | azure | oci => true
  | gce | docker => false

/-- `backend in VALID_IMAGE_BACKENDS`. -/
def Backend.hasImages : Backend → Bool
  | aws | gce | azure | oci => true
  | docker => false

/-- `{"aws": DEFAULT_AWS_REGION, "azure": DEFAULT_AZURE_REGION}.get(backend, "")`. -/
def Backend.defaultRegion : Backend → String
  | aws => "eu-west-1"
  | azure => "eastus"
  | gce | docker | oci => ""

/-- `JobConfig`, with the fields that filtering, resolution and triggering read. -/
structure TriggerJob extends JobConfig where
  backend : Backend
  arch : String
  labels : List String
  includeVersions : List String
  excludeVersions : List String
  preRelease : List String
  wait : Bool
  waitTimeout : Int
  failOnError : Bool
  collectResults : List String

def jobArch (job : TriggerJob) : String :=
  if job.arch ≠ "" then job.arch
  else if "aarch64" ∈ job.labels then "aarch64" else "x86_64"

/-! ## Regions -/

/-- The truth value of a parameter value; of the scalars, the zeros and `False` are false. -/
def ParamValue.truthy : ParamValue → Bool
  | text value => value ≠ ""
  | null => false
  | scalar shown => shown ∉ ["0", "0.0", "-0.0", "False"]

/-- `json.loads` of a text that starts with a bracket, the items by what `str` makes of them;
nothing where it raises. -/
abbrev JsonLoads := String → Option (List String)

def commaSeparated (value : String) : List String :=
  ((value.toList.splitOnP fun char => char == ',' || isSpace char).filter
    (fun piece => !piece.isEmpty)).map String.ofList

variable (loads : JsonLoads) (images : Images)

def splitRegions (region : String) : List String :=
  let value := strip region
  if value = "" then []
  else if startsWith value "[" then
    match loads value with
    | some items => (items.map strip).filter (· ≠ "")
    | none => commaSeparated value
  else commaSeparated value

/-- `split_regions`; a true value that is no text has no `strip`, which raises. -/
def splitRegionValue (region : ParamValue) : Option (List String) :=
  if region.truthy then
    match region with
    | .text value => some (splitRegions loads value)
    | _ => none
  else some []

def backendRegion (backend : Backend) (region : ParamValue) : Option String :=
  if backend.regional then
    (splitRegionValue loads region).map fun regions =>
      if regions = [] then backend.defaultRegion else ",".intercalate regions
  else some ""

structure BackendTarget where
  backend : Backend
  region : String
  arch : String
  deriving DecidableEq, Repr

/-- `first or second`, of a value that may be absent. -/
def orValue (first : Option ParamValue) (second : ParamValue) : ParamValue :=
  match first with
  | some value => if value.truthy then value else second
  | none => second

/-- The region `target_for_job` picks. -/
def targetRegion (job : TriggerJob) (defaults : Params) (regionOverride : Option ParamValue) :
    ParamValue :=
  orValue (job.params.get "region")
    (orValue regionOverride ((defaults.get "region").getD (.text "")))

def targetForJob (job : TriggerJob) (defaults : Params) (regionOverride : Option ParamValue) :
    Option BackendTarget :=
  (backendRegion loads job.backend (targetRegion job defaults regionOverride)).map fun region =>
    ⟨job.backend, region, jobArch job⟩

def jobUsesScyllaVersion (job : TriggerJob) (defaults overrides : Params) : Bool :=
  let merged := (defaults.update job.params).update (given overrides)
  if isRollingUpgrade merged then false
  else
    match merged.get "unified_package" with
    | some value => !value.truthy
    | none => true

/-! ## Builds -/

/-- What the image lookups answer: the newest build, empty if there is none, and whether a build is
published for a target or in one region. -/
structure Images where
  resolveLatestVersion : String → BackendTarget → String
  versionExists : String → BackendTarget → Bool
  versionExistsInRegion : String → Backend → String → String → Bool

inductive VersionResolution where
  | perBackend
  | common
  | awsStrict
  | other (name : String)
  deriving DecidableEq, Repr

def BackendTarget.str (target : BackendTarget) : String :=
  "/".intercalate ([target.backend.name, target.region, target.arch].filter (· ≠ ""))

def isResolvablePartialVersion (version : String) : Bool :=
  if version = "" ∨ (Utils.fullVersionTag version).isSome ∨ Utils.releaseVersion version then false
  else (Utils.branchVersion version).isSome || (Utils.simpleVersion version).isSome

def asBranchQualifier (version : String) : String :=
  if (Utils.branchVersion version).isSome then version
  else
    match Utils.simpleVersion version with
    | some (major, minor) => "branch-" ++ major ++ "." ++ minor ++ ":latest"
    | none => version

/-- The builds picked, and the reasons of the targets that have none. -/
structure Resolved where
  versions : Dict BackendTarget String
  unavailable : Dict BackendTarget String

def Resolved.pick (resolved : Resolved) (target : BackendTarget) (version : String) : Resolved :=
  { resolved with versions := resolved.versions.set target version }

/-- Give a reason why a target has no build. -/
def Resolved.refuse (resolved : Resolved) (target : BackendTarget) (reason : String) : Resolved :=
  { resolved with unavailable := resolved.unavailable.set target reason }

/-- A build that already pins itself is used where it is published. -/
def Resolved.pickPublished (version : String) (resolved : Resolved) (target : BackendTarget) :
    Resolved :=
  if images.versionExists version target then resolved.pick target version
  else resolved.refuse target ("build '" ++ version ++ "' is not published")

/-- One turn of the `per-backend` loop. -/
def resolvePerBackend (original reference : String) (resolved : Resolved) (target : BackendTarget) :
    Resolved :=
  let resolvable := isResolvablePartialVersion original
  if !target.backend.hasImages then
    resolved.pick target (if resolvable then original else reference)
  else if !resolvable then resolved.pickPublished images reference target
  else
    let version := images.resolveLatestVersion original target
    if version = "" then resolved.refuse target ("no image found for '" ++ original ++ "'")
    else if ((splitRegions loads target.region).drop 1).all fun other =>
        images.versionExistsInRegion version target.backend other target.arch then
      resolved.pick target version
    else resolved.refuse target ("build '" ++ version ++ "' is not published in every region")

/-- The builds `common` tries, newest first. -/
def commonCandidates (original reference : String) (targets : List BackendTarget) : List String :=
  if isResolvablePartialVersion original then
    let found := targets.foldl (fun candidates target =>
      if !target.backend.hasImages then candidates
      else
        let version := images.resolveLatestVersion original target
        if version = "" ∨ version ∈ candidates then candidates else candidates ++ [version]) []
    found.mergeSort fun left right =>
      !decide (Utils.versionBuildDate left < Utils.versionBuildDate right)
  else if reference ≠ "" then [reference] else []

def resolveVersionsForTargets (original reference : String) (targets : List BackendTarget)
    (strategy : VersionResolution) : Except TriggerMatrixError Resolved :=
  let reference := if reference = "" then original else reference
  let nothing : Resolved := ⟨Dict.empty, Dict.empty⟩
  let shown := ", ".intercalate (targets.map BackendTarget.str)
  match strategy with
  | .other name =>
    .error ⟨"Unknown version resolution strategy '" ++ name ++
      "'. Valid: per-backend, common, aws-strict"⟩
  | .perBackend => .ok (targets.foldl (resolvePerBackend loads images original reference) nothing)
  | .awsStrict => .ok (targets.foldl (Resolved.pickPublished images reference) nothing)
  | .common =>
    let candidates := commonCandidates images original reference targets
    if candidates = [] then
      .error ⟨"Cannot resolve '" ++ original ++ "' to a build on any of: " ++ shown ++
        ". Check that images were published."⟩
    else
      match candidates.find? fun candidate => targets.all (images.versionExists candidate) with
      | some candidate =>
        .ok (targets.foldl (fun resolved target => resolved.pick target candidate) nothing)
      | none =>
        .error ⟨"No build of '" ++ original ++ "' is published on all of: " ++ shown ++
          " (tried: " ++ ", ".intercalate candidates ++
          "). Use version_resolution=per-backend to let every backend run its own latest build, " ++
          "or aws-strict to trigger only the backends that have the AWS build."⟩

end Sct.Trigger
