import Sct.Lib.Dict
import Sct.Utils.VersionUtils

/-!
# The trigger matrix

The check of the required parameters (`_check_required_params` of
`sdcm/utils/trigger_matrix/matrix.py`) and the parameters a Jenkins job is given
(`build_job_parameters` of `sdcm/utils/trigger_matrix/parameters.py`). Parameter values are the
scalars `load_matrix_config` accepts. Of a job and a matrix only the fields these two functions
read are kept.
-/

namespace Sct.Trigger

/-- A parameter value: a text, a null, or another scalar, by what `str` makes of it. -/
inductive ParamValue where
  | text (value : String)
  | null
  | scalar (shown : String)
  deriving DecidableEq, Repr

def ParamValue.str : ParamValue → String
  | text value => value
  | null => "None"
  | scalar shown => shown

abbrev Params := Dict String ParamValue

/-- `str(params.get(name, ""))`. -/
def shown (params : Params) (name : String) : String :=
  ((params.get name).getD (.text "")).str

structure JobConfig where
  jobName : String
  disabled : Bool
  jobThrottleCategory : String
  params : Params

structure MatrixConfig where
  jobs : List JobConfig
  defaults : Params
  requiredParams : List String

structure TriggerMatrixError where
  message : String
  deriving DecidableEq, Repr

variable (config : MatrixConfig) (overrides : Params)

/-- `{k: v for k, v in overrides.items() if v is not None}`. -/
def given : Params := overrides.filterValues (· ≠ .null)

/-! ## The check -/

/-- The parameters of a job as the check sees them. -/
def checkedParams (job : JobConfig) : Params :=
  (config.defaults.update job.params).update (given overrides)

/-- Note a parameter missing for a job: `missing.setdefault(name, []).append(job_name)`. -/
def noteMissing (missing : Dict String (List String)) (name jobName : String) :
    Dict String (List String) :=
  missing.set name ((missing.get name).getD [] ++ [jobName])

/-- The loop over the required parameters of one job. -/
def missingOfJob (missing : Dict String (List String)) (job : JobConfig) :
    Dict String (List String) :=
  if job.disabled then missing
  else
    config.requiredParams.foldl (fun missing name =>
      if strip (shown (checkedParams config overrides job) name) = "" then
        noteMissing missing name job.jobName
      else missing) missing

def checkRequiredParams : Except TriggerMatrixError Unit :=
  let missing := config.jobs.foldl (missingOfJob config overrides) Dict.empty
  if missing.entries = [] then .ok ()
  else
    .error ⟨"Required parameters have no value: " ++ "; ".intercalate
      (missing.entries.map fun entry =>
        entry.1 ++ " (jobs: " ++ ", ".intercalate entry.2 ++ ")")⟩

/-! ## The parameters of a job -/

def perJobLocationParams : List String := ["region", "availability_zone"]

def extractBranchFromVersion (scyllaVersion : String) : String :=
  if scyllaVersion = "" then ""
  else
    match Utils.branchVersion scyllaVersion with
    | some branch => branch
    | none =>
      match (Utils.fullVersionTag scyllaVersion).or (Utils.simpleVersion scyllaVersion) with
      | some (major, minor) => major ++ "." ++ minor
      | none => if (strip scyllaVersion).toLower = "master" then "master" else ""

def branchDirectoryId (branch : String) : String :=
  if branch = "" ∨ branch = "master" ∨ startsWith branch "branch-" ∨ startsWith branch "enterprise-"
  then branch
  else "branch-" ++ branch

/-- `_resolve_templates`; replacing a placeholder that does not occur changes nothing. -/
def resolveTemplates (branch branchId : String) : ParamValue → ParamValue
  | .text value =>
    .text (String.ofList (Scan.replace "\x7bbranch_id\x7d".toList branchId.toList
      (Scan.replace "\x7bbranch\x7d".toList branch.toList value.toList)))
  | value => value

/-- `{k: overrides.pop(k) for k in PER_JOB_LOCATION_PARAMS if k in overrides}`. -/
def locationOverrides : Params :=
  perJobLocationParams.foldl (fun location name =>
    match overrides.get name with
    | some value => location.set name value
    | none => location) Dict.empty

def otherOverrides : Params :=
  perJobLocationParams.foldl Dict.erase overrides

/-- The merge of the sources of a job's parameters. -/
def mergedParams (job : JobConfig) (defaults cliOverrides : Params) : Params :=
  let overrides := given cliOverrides
  ((defaults.update (locationOverrides overrides)).update job.params).update
    (otherOverrides overrides)

/-- `str(params.get("rolling_upgrade_test", "")).lower() == "true"`. -/
def isRollingUpgrade (params : Params) : Bool :=
  (shown params "rolling_upgrade_test").toLower = "true"

/-- `scylla_version` is always set, if provided. -/
def withVersion (scyllaVersion : String) (params : Params) : Params :=
  if scyllaVersion = "" then params else params.set "scylla_version" (.text scyllaVersion)

/-- `params.setdefault("job_throttle_category", ...)`, if the job has a category. -/
def withThrottleCategory (category : String) (params : Params) : Params :=
  if category = "" ∨ "job_throttle_category" ∈ params then params
  else params.set "job_throttle_category" (.text category)

/-- A rolling upgrade gets an empty `scylla_version`, any other job no `new_scylla_repo`. -/
def forJobKind (params : Params) : Params :=
  if isRollingUpgrade params then params.set "scylla_version" (.text "")
  else params.erase "new_scylla_repo"

def buildJobParameters (job : JobConfig) (defaults : Params) (scyllaVersion : String)
    (cliOverrides : Params) (branchSourceVersion : Option String) : Params :=
  let params := forJobKind (withThrottleCategory job.jobThrottleCategory
    (withVersion scyllaVersion (mergedParams job defaults cliOverrides)))
  let branch := extractBranchFromVersion ((truthy branchSourceVersion).getD scyllaVersion)
  if branch = "" then params
  else params.mapValues (resolveTemplates branch (branchDirectoryId branch))

end Sct.Trigger
