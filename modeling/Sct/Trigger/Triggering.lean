import Mathlib.Data.List.Sort
import Sct.Trigger.Resolution

/-!
# Triggering the matrix for one version

`filter_jobs` of `sdcm/utils/trigger_matrix/filters.py`, the calls of `jenkins_client.py` and the
loop of `_trigger_version` of `matrix.py`. What Jenkins answers is given for every entry of the
matrix. Beside the results the loop keeps a record of the answers it got and of the entries it
accounted for; the program has neither.
-/

namespace Sct.Trigger

/-! ## Filtering -/

structure Filters where
  labelsSelector : Option String
  backend : Option String
  skipJobs : List String
  imageArch : Option String

/-- The alternatives of every item of the selector, the items without any left out. -/
def requiredGroups (labelsSelector : Option String) : List (List String) :=
  match truthy labelsSelector with
  | none => []
  | some selector =>
    ((splitOn ',' selector).map fun item =>
      ((splitOn '/' item).map strip).filter (· ≠ "")).filter (· ≠ [])

def stripVersionQualifier (scyllaVersion : String) : String :=
  (Utils.branchVersion scyllaVersion).getD scyllaVersion

/-- `any(version_to_check.startswith(prefix) for prefix in versions)`. -/
def startsWithAny (scyllaVersion : String) (versions : List String) : Bool :=
  versions.any (startsWith (stripVersionQualifier scyllaVersion))

def isPreReleaseMatch (scyllaVersion resolvedVersion : String) (preRelease : List String) : Bool :=
  stripVersionQualifier scyllaVersion = "master" ||
    preRelease.any fun tag => contains resolvedVersion ("-" ++ tag)

/-- An image of one architecture runs no job of the other. -/
def archExcluded (imageArch : Option String) (job : TriggerJob) : Bool :=
  match truthy imageArch with
  | none => false
  | some arch =>
    (arch = "aarch64" && jobArch job ≠ "aarch64") || (arch = "x86_64" && jobArch job = "aarch64")

/-- Whether `filter_jobs` keeps a job. -/
def keepJob (filters : Filters) (scyllaVersion : String) (resolvedVersion : Option String)
    (job : TriggerJob) : Bool :=
  if job.disabled then false
  else if job.jobName ∈ filters.skipJobs then false
  else if (truthy filters.backend).any (job.backend.name ≠ ·) then false
  else if archExcluded filters.imageArch job then false
  else if job.includeVersions ≠ [] && !startsWithAny scyllaVersion job.includeVersions then false
  else if startsWithAny scyllaVersion job.excludeVersions then false
  else if job.preRelease ≠ [] && !isPreReleaseMatch scyllaVersion
      ((truthy resolvedVersion).getD scyllaVersion) job.preRelease then false
  else (requiredGroups filters.labelsSelector).all fun group => group.any (· ∈ job.labels)

/-! ## Job paths -/

def determineJobFolder (scyllaVersion : String) (jobFolder : Option String) :
    Except TriggerMatrixError String :=
  match truthy jobFolder with
  | some folder => .ok folder
  | none =>
    if scyllaVersion = "" then
      .error ⟨"Cannot determine job folder: scylla_version is empty. " ++
        "Provide a version or explicit --job-folder."⟩
    else
      match Utils.branchVersion scyllaVersion with
      | some branch => .ok ("scylla-" ++ branch)
      | none =>
        match (Utils.fullVersionTag scyllaVersion).or (Utils.simpleVersion scyllaVersion) with
        | some (major, minor) => .ok ("scylla-" ++ major ++ "." ++ minor)
        | none =>
          if (strip scyllaVersion).toLower = "master" then .ok "scylla-master"
          else
            .error ⟨"Cannot determine job folder from version '" ++ scyllaVersion ++
              "'. Provide an explicit --job-folder."⟩

def resolveJobPath (jobName jobFolder : String) : String :=
  if startsWith jobName "/" then String.ofList (jobName.toList.dropWhile (· == '/'))
  else jobFolder ++ "/" ++ jobName

/-! ## Jenkins -/

/-- What one run of the trigger script answers. -/
inductive Response where
  /-- `TRIGGERED:` and an address. -/
  | triggered (url : String)
  /-- `ERROR:` and a message. -/
  | error (message : String)
  | unexpected
  /-- A `JenkinsException`. -/
  | exception
  deriving DecidableEq, Repr

/-- Jenkins, as it answers the call of one entry. -/
structure JenkinsAnswers where
  connects : Bool
  responses : Nat → Response

/-- The attempts of `_run_trigger_script`: the answers it got, and the address if the job was
triggered. -/
def runAttempts : List Response → List Response × Option String
  | [] => ([], none)
  | .triggered url :: _ => ([.triggered url], some url)
  | .error message :: _ => ([.error message], none)
  | other :: rest => (other :: (runAttempts rest).1, (runAttempts rest).2)

def runTriggerScript (answers : JenkinsAnswers) : List Response × Option String :=
  runAttempts ((List.range 3).map answers.responses)

/-- Why a trigger of the matrix ends without results. -/
inductive TriggerFailure where
  /-- A `TriggerMatrixError`. -/
  | matrix (error : TriggerMatrixError)
  | attribute
  /-- A `JenkinsTriggerError` that no one catches: the credentials are missing. -/
  | credentials
  deriving DecidableEq, Repr

/-- `JenkinsClient.trigger`; the connection is made outside the `try`. -/
def trigger (dryRun : Bool) (answers : JenkinsAnswers) :
    Except TriggerFailure (List Response × Bool) :=
  if dryRun then .ok ([], true)
  else if answers.connects then
    .ok ((runTriggerScript answers).1, (runTriggerScript answers).2.isSome)
  else .error .credentials

def triggerWithQueue (dryRun : Bool) (answers : JenkinsAnswers) : List Response × Option String :=
  if dryRun then ([], some "")
  else if answers.connects then runTriggerScript answers
  else ([], none)

/-! ## The loop -/

structure PendingWaitJob where
  jobName : String
  queueUrl : String
  collectResults : List String
  timeout : Int
  failOnError : Bool
  scyllaVersion : ParamValue

/-- Where an entry of the matrix is accounted for. -/
inductive Account where
  | triggered
  | skipped
  | failed
  deriving DecidableEq, Repr

structure Progress where
  triggered : List String
  skipped : List String
  failed : List String
  versions : Dict String ParamValue
  triggeredPaths : List String
  pending : List PendingWaitJob
  answered : List (String × Response)
  /-- The entries accounted for, by their position in the matrix. -/
  accounts : List (Nat × Account)

/-- A trigger of the matrix for one version: the arguments of `_trigger_version`, and what the
clouds and Jenkins answer. -/
structure TriggerRun where
  jobs : List TriggerJob
  defaults : Params
  configResolution : VersionResolution
  versionResolution : Option VersionResolution
  scyllaVersion : String
  filterVersion : Option String
  jobFolder : Option String
  filters : Filters
  dryRun : Bool
  overrides : Params
  loads : JsonLoads
  images : Images
  /-- Jenkins, by the position of an entry in the matrix. -/
  jenkins : Nat → JenkinsAnswers

namespace TriggerRun

variable (run : TriggerRun)

/-- `filter_version or scylla_version`. -/
def versionForFiltering : String := (truthy run.filterVersion).getD run.scyllaVersion

def keeps (job : TriggerJob) : Bool :=
  keepJob run.filters run.versionForFiltering
    (if (truthy run.filterVersion).isSome then some run.scyllaVersion else none) job

/-- The entries of the matrix, with their positions. -/
def entries : List (TriggerJob × Nat) := run.jobs.zipIdx

def filtered : List (TriggerJob × Nat) := run.entries.filter fun entry => run.keeps entry.1

def filteredNames : List String := run.filtered.map fun entry => entry.1.jobName

def unmatched : List (TriggerJob × Nat) :=
  run.entries.filter fun entry => entry.1.jobName ∉ run.filteredNames

def jobTarget (job : TriggerJob) : Option (Option BackendTarget) :=
  if jobUsesScyllaVersion job run.defaults run.overrides then
    (targetForJob run.loads job run.defaults (run.overrides.get "region")).map some
  else some none

end TriggerRun

/-- The order of `BackendTarget`. -/
def BackendTarget.le (left right : BackendTarget) : Bool :=
  if left.backend.name ≠ right.backend.name then left.backend.name < right.backend.name
  else if left.region ≠ right.region then left.region < right.region
  else !decide (right.arch < left.arch)

namespace TriggerRun

variable (run : TriggerRun)

/-- The builds of the targets of some entries: none to resolve without a version or a target. -/
def resolve (targets : List (Option BackendTarget)) : Except TriggerFailure Resolved :=
  let matrixTargets := (targets.filterMap id).eraseDups.insertionSort fun left right =>
    left.le right = true
  if run.scyllaVersion = "" ∨ matrixTargets = [] then .ok ⟨Dict.empty, Dict.empty⟩
  else
    match resolveVersionsForTargets run.loads run.images run.versionForFiltering run.scyllaVersion
      matrixTargets (run.versionResolution.getD run.configResolution) with
    | .ok resolved => .ok resolved
    | .error error => .error (.matrix error)

def start : Progress where
  triggered := []
  skipped := run.unmatched.map fun entry => entry.1.jobName
  failed := []
  versions := Dict.empty
  triggeredPaths := []
  pending := []
  answered := []
  accounts := run.unmatched.map fun entry => (entry.2, .skipped)

end TriggerRun

namespace Progress

def trigger (progress : Progress) (path : String) (position : Nat) : Progress :=
  { progress with
    triggered := progress.triggered ++ [path]
    triggeredPaths := path :: progress.triggeredPaths
    accounts := progress.accounts ++ [(position, .triggered)] }

def skip (progress : Progress) (name : String) (position : Nat) : Progress :=
  { progress with
    skipped := progress.skipped ++ [name]
    accounts := progress.accounts ++ [(position, .skipped)] }

def fail (progress : Progress) (path : String) (position : Nat) : Progress :=
  { progress with
    failed := progress.failed ++ [path]
    accounts := progress.accounts ++ [(position, .failed)] }

/-- The parameters of a job are built, and Jenkins has answered. -/
def call (progress : Progress) (path : String) (version : ParamValue) (responses : List Response) :
    Progress :=
  { progress with
    versions := progress.versions.set path version
    answered := progress.answered ++ responses.map fun response => (path, response) }

def await (progress : Progress) (job : PendingWaitJob) : Progress :=
  { progress with pending := progress.pending ++ [job] }

end Progress

namespace TriggerRun

variable (run : TriggerRun)

def callJob (path : String) (jobVersion : String) (progress : Progress)
    (entry : TriggerJob × Nat) : Except TriggerFailure Progress :=
  let params := buildJobParameters entry.1.toJobConfig run.defaults jobVersion run.overrides
    run.filterVersion
  let version := (params.get "scylla_version").getD (.text "")
  if entry.1.wait then
    let (responses, queueUrl) := triggerWithQueue run.dryRun (run.jenkins entry.2)
    let called := progress.call path version responses
    match queueUrl with
    | some queueUrl =>
      .ok ((called.trigger path entry.2).await ⟨path, queueUrl, entry.1.collectResults,
        entry.1.waitTimeout, entry.1.failOnError, version⟩)
    | none => .ok (called.fail path entry.2)
  else
    match trigger run.dryRun (run.jenkins entry.2) with
    | .error failure => .error failure
    | .ok (responses, success) =>
      let called := progress.call path version responses
      .ok (if success then called.trigger path entry.2 else called.fail path entry.2)

def triggerJob (folder : String) (resolved : Resolved) (progress : Progress)
    (entry : TriggerJob × Nat) : Except TriggerFailure Progress :=
  let path := resolveJobPath entry.1.jobName folder
  if path ∈ progress.triggeredPaths then .ok progress
  else
    match run.jobTarget entry.1 with
    | none => .error .attribute
    | some none => run.callJob path run.scyllaVersion progress entry
    | some (some target) =>
      match resolved.unavailable.get target with
      | some _ => .ok (progress.skip entry.1.jobName entry.2)
      | none =>
        run.callJob path ((resolved.versions.get target).getD run.scyllaVersion) progress entry

def triggerJobs (folder : String) (resolved : Resolved) (progress : Progress)
    (entries : List (TriggerJob × Nat)) : Except TriggerFailure Progress :=
  entries.foldlM (run.triggerJob folder resolved) progress

/-- What `_trigger_version` settles before the loop: the job folder and the builds. -/
def prepare : Except TriggerFailure (String × Resolved) :=
  match determineJobFolder run.versionForFiltering run.jobFolder with
  | .error error => .error (.matrix error)
  | .ok folder =>
    match run.filtered.mapM fun entry => run.jobTarget entry.1 with
    | none => .error .attribute
    | some targets =>
      match run.resolve targets with
      | .error failure => .error failure
      | .ok resolved => .ok (folder, resolved)

def triggerVersion : Except TriggerFailure Progress :=
  match run.prepare with
  | .error failure => .error failure
  | .ok (folder, resolved) => run.triggerJobs folder resolved run.start run.filtered

end TriggerRun

end Sct.Trigger
