import Sct.Trigger.Matrix

/-!
# What the check of the required parameters promises

The check and the builder merge the sources of a job's parameters separately. They agree except on
a few names: a location parameter the job sets itself wins over the override the check looked at,
the version is replaced, or emptied for a rolling upgrade, the repository of an upgrade is dropped
for any other job, and a null passes the check as the text `None`. The required parameters reach
every job exactly when none of this happens to them.
-/

open List

namespace Sct.Trigger

/-- A value that is no value: a null, or a text of white space. -/
def ParamValue.Blank (value : ParamValue) : Prop := value = .null ∨ strip value.str = ""

instance (value : ParamValue) : Decidable value.Blank :=
  inferInstanceAs (Decidable (value = .null ∨ strip value.str = ""))

def Provided (params : Params) (name : String) : Prop :=
  ∃ value, params.get name = some value ∧ ¬ value.Blank

/-! ## The check -/

lemma noteMissing_entries (missing : Dict String (List String)) (name jobName : String) :
    (noteMissing missing name jobName).entries ≠ [] := by
  intro empty
  have found : (noteMissing missing name jobName).get name = none := by
    rw [Dict.get, empty]
    rfl
  rw [noteMissing, Dict.get_set_self] at found
  cases found

variable (config : MatrixConfig)

lemma missingOfJob_entries (overrides : Params) (missing : Dict String (List String))
    (job : JobConfig) :
    (missingOfJob config overrides missing job).entries = [] ↔
      missing.entries = [] ∧ (job.disabled = false → ∀ name ∈ config.requiredParams,
        strip (shown (checkedParams config overrides job) name) ≠ "") := by
  unfold missingOfJob
  cases job.disabled with
  | true => simp
  | false =>
    rw [if_neg (by decide)]
    induction config.requiredParams generalizing missing with
    | nil => simp
    | cons name rest ih =>
      rw [foldl_cons, ih, forall_mem_cons]
      split
      · rename_i blank
        simp [noteMissing_entries, blank]
      · rename_i present
        simp [present]

lemma checkRequiredParams_ok_iff (overrides : Params) :
    checkRequiredParams config overrides = .ok () ↔
      ∀ job ∈ config.jobs, job.disabled = false → ∀ name ∈ config.requiredParams,
        strip (shown (checkedParams config overrides job) name) ≠ "" := by
  have collected (jobs : List JobConfig) (missing : Dict String (List String)) :
      (jobs.foldl (missingOfJob config overrides) missing).entries = [] ↔
        missing.entries = [] ∧ ∀ job ∈ jobs, job.disabled = false →
          ∀ name ∈ config.requiredParams,
            strip (shown (checkedParams config overrides job) name) ≠ "" := by
    induction jobs generalizing missing with
    | nil => simp
    | cons job rest ih =>
      rw [foldl_cons, ih, missingOfJob_entries, forall_mem_cons, and_assoc]
  have all := collected config.jobs Dict.empty
  unfold checkRequiredParams
  dsimp only
  split
  · rename_i none
    exact iff_of_true rfl (all.mp none).2
  · rename_i some
    exact iff_of_false nofun fun present => some (all.mpr ⟨rfl, present⟩)

/-! ## The merge -/

section

variable (overrides : Params)
include overrides

lemma get_given (name : String) :
    (given overrides).get name = (overrides.get name).filter (· ≠ .null) :=
  Dict.get_filterValues ..

lemma get_locationOverrides (name : String) :
    (locationOverrides overrides).get name =
      if name ∈ perJobLocationParams then overrides.get name else none := by
  unfold locationOverrides perJobLocationParams
  simp only [foldl_cons, foldl_nil, mem_cons, not_mem_nil, or_false]
  by_cases region : name = "region"
  · subst region
    cases overrides.get "availability_zone" <;> cases overrides.get "region" <;>
      simp [Dict.get_set]
  · by_cases zone : name = "availability_zone"
    · subst zone
      cases overrides.get "availability_zone" <;> cases overrides.get "region" <;>
        simp [Dict.get_set]
    · cases overrides.get "availability_zone" <;> cases overrides.get "region" <;>
        simp [Dict.get_set, region, zone]

lemma get_otherOverrides (name : String) :
    (otherOverrides overrides).get name =
      if name ∈ perJobLocationParams then none else overrides.get name := by
  unfold otherOverrides perJobLocationParams
  simp only [foldl_cons, foldl_nil, Dict.get_erase, mem_cons, not_mem_nil,
    or_false]
  by_cases region : name = "region"
  · simp [region]
  · by_cases zone : name = "availability_zone"
    · simp [zone]
    · simp [region, zone]

lemma get_checkedParams (job : JobConfig) (name : String) :
    (checkedParams config overrides job).get name =
      ((given overrides).get name).or ((job.params.get name).or (config.defaults.get name)) := by
  rw [checkedParams, Dict.get_update, Dict.get_update]

/-- The builder takes a parameter from the sources the check looks at, but for the location
parameters, where the job itself comes first. -/
lemma get_mergedParams (job : JobConfig) (name : String) :
    (mergedParams job config.defaults overrides).get name =
      if name ∈ perJobLocationParams then
        (job.params.get name).or ((checkedParams config overrides job).get name)
      else (checkedParams config overrides job).get name := by
  unfold mergedParams
  rw [get_checkedParams, Dict.get_update, Dict.get_update, Dict.get_update,
    get_locationOverrides, get_otherOverrides]
  split
  · cases job.params.get name <;> simp
  · simp

end

/-! ## Templates -/

def Solid (text : String) : Prop := text.toList.all isSpace = false

lemma solid_of_mem {text : String} {char : Char} (listed : char ∈ text.toList)
    (visible : isSpace char = false) : Solid text := by
  apply Bool.eq_false_iff.mpr
  intro all
  have blank := all_eq_true.mp all char listed
  rw [visible] at blank
  cases blank

lemma branchVersion_solid {version branch : String}
    (matched : Utils.branchVersion version = some branch) : Solid branch := by
  obtain ⟨⟨taken, _⟩, scanned, matched⟩ := Option.bind_eq_some_iff.mp matched
  obtain ⟨_, _, matched⟩ := Option.bind_eq_some_iff.mp matched
  obtain ⟨⟨_, _⟩, _, matched⟩ := Option.bind_eq_some_iff.mp matched
  dsimp only at matched
  split at matched
  · obtain rfl := Option.some.inj matched
    obtain ⟨nonempty, accepted⟩ := Scan.run_accepts scanned
    obtain ⟨char, listed⟩ := exists_mem_of_ne_nil taken nonempty
    have named := accepted char listed
    refine solid_of_mem (by simpa using listed : char ∈ _) ?_
    simp only [Bool.or_eq_true, beq_iff_eq] at named
    obtain ((letter | rfl) | rfl) | rfl := named
    · exact Scan.isSpace_of_isAlphanumeric letter
    · decide
    · decide
    · decide
  · cases matched

lemma extractBranchFromVersion_solid (version : String) :
    extractBranchFromVersion version = "" ∨ Solid (extractBranchFromVersion version) := by
  unfold extractBranchFromVersion
  split
  · exact .inl rfl
  · split
    · rename_i matched
      exact .inr (branchVersion_solid matched)
    · split
      · exact .inr (solid_of_mem (by simp : '.' ∈ _) (by decide))
      · split
        · exact .inr rfl
        · exact .inl rfl

lemma branchDirectoryId_solid {branch : String} (solid : Solid branch) :
    Solid (branchDirectoryId branch) := by
  unfold branchDirectoryId
  split
  · exact solid
  · exact solid_of_mem (by simp : 'b' ∈ _) (by decide)

lemma blank_resolveTemplates {branch branchId : String} (solid : Solid branch)
    (solidId : Solid branchId) (value : ParamValue) :
    (resolveTemplates branch branchId value).Blank ↔ value.Blank := by
  cases value with
  | null => rfl
  | scalar shown => rfl
  | text value =>
    simp only [ParamValue.Blank, resolveTemplates, ParamValue.str, reduceCtorEq, false_or,
      strip_eq_empty_iff, String.toList_ofList]
    rw [Scan.replace_all_space _ _ _ (by decide) solidId,
      Scan.replace_all_space _ _ _ (by decide) solid]

lemma provided_mapValues {change : ParamValue → ParamValue}
    (kept : ∀ value, (change value).Blank ↔ value.Blank) (params : Params) (name : String) :
    Provided (params.mapValues change) name ↔ Provided params name := by
  simp only [Provided, Dict.get_mapValues, Option.map_eq_some_iff]
  constructor
  · rintro ⟨_, ⟨value, found, rfl⟩, visible⟩
    exact ⟨value, found, fun blank => visible ((kept value).mpr blank)⟩
  · rintro ⟨value, found, visible⟩
    exact ⟨change value, ⟨value, found, rfl⟩, fun blank => visible ((kept value).mp blank)⟩

lemma provided_buildJobParameters_iff (job : JobConfig) (defaults : Params) (version : String)
    (overrides : Params) (branchSource : Option String) (name : String) :
    Provided (buildJobParameters job defaults version overrides branchSource) name ↔
      Provided (forJobKind (withThrottleCategory job.jobThrottleCategory
        (withVersion version (mergedParams job defaults overrides)))) name := by
  unfold buildJobParameters
  dsimp only
  split
  · rfl
  · rename_i named
    have solid := (extractBranchFromVersion_solid _).resolve_left named
    exact provided_mapValues (blank_resolveTemplates solid (branchDirectoryId_solid solid)) _ _

/-! ## The steps after the merge -/

lemma get_withVersion (version : String) (params : Params) (name : String) :
    (withVersion version params).get name =
      if version ≠ "" ∧ name = "scylla_version" then some (.text version)
      else params.get name := by
  unfold withVersion
  by_cases empty : version = ""
  · simp [empty]
  · simp [empty, Dict.get_set]

variable {name : String} {params : Params}

lemma get_withThrottleCategory {category : String}
    (settled : name ≠ "job_throttle_category" ∨ name ∈ params) :
    (withThrottleCategory category params).get name = params.get name := by
  unfold withThrottleCategory
  split
  · rfl
  · rename_i added
    rw [not_or] at added
    refine Dict.get_set_of_ne _ _ fun same => ?_
    exact settled.elim (fun other => other same) (fun present => added.2 (same ▸ present))

lemma get_forJobKind (params : Params) (name : String) :
    (forJobKind params).get name =
      if isRollingUpgrade params then
        if name = "scylla_version" then some (.text "") else params.get name
      else if name = "new_scylla_repo" then none else params.get name := by
  unfold forJobKind
  split
  · exact Dict.get_set ..
  · exact Dict.get_erase ..

/-- Whether a job is a rolling upgrade, as the check sees its parameters. -/
def RollingUpgrade (config : MatrixConfig) (overrides : Params) (job : JobConfig) : Prop :=
  isRollingUpgrade (checkedParams config overrides job) = true

instance (config : MatrixConfig) (overrides : Params) (job : JobConfig) :
    Decidable (RollingUpgrade config overrides job) :=
  inferInstanceAs (Decidable (isRollingUpgrade (checkedParams config overrides job) = true))

lemma isRollingUpgrade_built (overrides : Params) (job : JobConfig) (version : String) :
    isRollingUpgrade (withThrottleCategory job.jobThrottleCategory
      (withVersion version (mergedParams job config.defaults overrides))) =
      isRollingUpgrade (checkedParams config overrides job) := by
  unfold isRollingUpgrade shown
  rw [get_withThrottleCategory (.inl (by decide)), get_withVersion, if_neg (by simp),
    get_mergedParams, if_neg (by decide)]

/-! ## Agreement -/

/-- A required parameter keeps its value on the way from the check to the job. -/
def Reaches (config : MatrixConfig) (overrides : Params) (version : String) (job : JobConfig)
    (name : String) : Prop :=
  let checked := (checkedParams config overrides job).get name
  if name = "scylla_version" then
    ¬ RollingUpgrade config overrides job ∧
      if version = "" then checked ≠ some .null else strip version ≠ ""
  else if name = "new_scylla_repo" then
    RollingUpgrade config overrides job ∧ checked ≠ some .null
  else if name ∈ perJobLocationParams then
    match job.params.get name with
    | some own => ¬ own.Blank
    | none => checked ≠ some .null
  else checked ≠ some .null

lemma exists_checked (accepted : strip (shown params name) ≠ "") :
    ∃ value, params.get name = some value ∧ strip value.str ≠ "" := by
  unfold shown at accepted
  cases found : params.get name with
  | none =>
    rw [found] at accepted
    exact absurd rfl accepted
  | some value =>
    rw [found] at accepted
    exact ⟨value, rfl, accepted⟩

variable {value : ParamValue}

lemma provided_iff_of_get (found : params.get name = some value) :
    Provided params name ↔ ¬ value.Blank := by
  simp [Provided, found]

lemma not_blank_iff (visible : strip value.str ≠ "") :
    ¬ value.Blank ↔ some value ≠ some .null := by
  simp [ParamValue.Blank, visible]

section Built

variable {config : MatrixConfig} {overrides : Params} {job : JobConfig} {name : String}
  {value : ParamValue}

lemma get_built (checked : (checkedParams config overrides job).get name = some value)
    (version : String) :
    (forJobKind (withThrottleCategory job.jobThrottleCategory
      (withVersion version (mergedParams job config.defaults overrides)))).get name =
    let sent := if version ≠ "" ∧ name = "scylla_version" then some (.text version)
      else if name ∈ perJobLocationParams then (job.params.get name).or (some value)
      else some value
    if RollingUpgrade config overrides job then
      if name = "scylla_version" then some (.text "") else sent
    else if name = "new_scylla_repo" then none else sent := by
  have merged := get_mergedParams config overrides job name
  have present : name ∈ withVersion version (mergedParams job config.defaults overrides) := by
    rw [Dict.mem_iff, get_withVersion, merged, checked]
    split
    · exact ⟨_, rfl⟩
    · split
      · cases job.params.get name <;> exact ⟨_, rfl⟩
      · exact ⟨_, rfl⟩
  rw [get_forJobKind, isRollingUpgrade_built, get_withThrottleCategory (.inr present),
    get_withVersion, merged, checked]
  rfl

variable (visible : strip value.str ≠ "")
include visible

lemma provided_version_iff
    (checked : (checkedParams config overrides job).get "scylla_version" = some value)
    (version : String) :
    Provided (forJobKind (withThrottleCategory job.jobThrottleCategory
      (withVersion version (mergedParams job config.defaults overrides)))) "scylla_version" ↔
    ¬ RollingUpgrade config overrides job ∧
      if version = "" then some value ≠ some .null else strip version ≠ "" := by
  have built := get_built checked version
  by_cases rolling : RollingUpgrade config overrides job
  · simp only [rolling, if_true] at built
    rw [provided_iff_of_get built]
    simp [rolling, ParamValue.Blank, ParamValue.str, strip_eq_empty_iff]
  · by_cases empty : version = ""
    · subst empty
      simp only [rolling, if_false, ne_eq, not_true_eq_false, false_and,
        show "scylla_version" ≠ "new_scylla_repo" by decide,
        show "scylla_version" ∉ perJobLocationParams by decide] at built
      rw [provided_iff_of_get built, not_blank_iff visible]
      simp [rolling]
    · simp only [rolling, empty, if_false, ne_eq, not_false_eq_true, and_self, if_true,
        show "scylla_version" ≠ "new_scylla_repo" by decide] at built
      rw [provided_iff_of_get built]
      simp [rolling, empty, ParamValue.Blank, ParamValue.str]

lemma provided_repo_iff
    (checked : (checkedParams config overrides job).get "new_scylla_repo" = some value)
    (version : String) :
    Provided (forJobKind (withThrottleCategory job.jobThrottleCategory
      (withVersion version (mergedParams job config.defaults overrides)))) "new_scylla_repo" ↔
    RollingUpgrade config overrides job ∧ some value ≠ some .null := by
  have built := get_built checked version
  by_cases rolling : RollingUpgrade config overrides job
  · simp only [rolling, if_true, if_false, and_false,
      show "new_scylla_repo" ≠ "scylla_version" by decide,
      show "new_scylla_repo" ∉ perJobLocationParams by decide] at built
    rw [provided_iff_of_get built, not_blank_iff visible]
    simp [rolling]
  · simp [Provided, built, rolling]

end Built

lemma provided_iff_reaches (overrides : Params) (version : String) (branchSource : Option String)
    (job : JobConfig) (accepted : strip (shown (checkedParams config overrides job) name) ≠ "") :
    Provided (buildJobParameters job config.defaults version overrides branchSource) name ↔
      Reaches config overrides version job name := by
  obtain ⟨value, checked, visible⟩ := exists_checked accepted
  rw [provided_buildJobParameters_iff]
  unfold Reaches
  rw [checked]
  split
  · rename_i isVersion
    subst isVersion
    exact provided_version_iff visible checked version
  · rename_i notVersion
    split
    · rename_i isRepo
      subst isRepo
      exact provided_repo_iff visible checked version
    · rename_i notRepo
      have built := get_built checked version
      simp only [notVersion, notRepo, and_false, if_false, ite_self] at built
      by_cases isLocation : name ∈ perJobLocationParams
      · rw [if_pos isLocation] at built ⊢
        cases own : job.params.get name with
        | none =>
          rw [own, Option.none_or] at built
          rw [provided_iff_of_get built, not_blank_iff visible]
        | some own =>
          rw [own, Option.some_or] at built
          exact provided_iff_of_get built
      · rw [if_neg isLocation] at built ⊢
        rw [provided_iff_of_get built, not_blank_iff visible]

/-- The parameters built for the enabled jobs of an accepted matrix have a value for every required
parameter exactly when each of them reaches each of these jobs. -/
theorem required_provided_iff (config : MatrixConfig) (overrides : Params) (version : String)
    (branchSource : Option String) (accepted : checkRequiredParams config overrides = .ok ()) :
    (∀ job ∈ config.jobs, job.disabled = false → ∀ name ∈ config.requiredParams,
      Provided (buildJobParameters job config.defaults version overrides branchSource) name) ↔
    ∀ job ∈ config.jobs, job.disabled = false → ∀ name ∈ config.requiredParams,
      Reaches config overrides version job name := by
  have visible := (checkRequiredParams_ok_iff config overrides).mp accepted
  constructor
  · intro provided job listed enabled name required
    exact (provided_iff_reaches config overrides version branchSource job
      (visible job listed enabled name required)).mp (provided job listed enabled name required)
  · intro reached job listed enabled name required
    exact (provided_iff_reaches config overrides version branchSource job
      (visible job listed enabled name required)).mpr (reached job listed enabled name required)

def matrixOf (requiredParam : String) (defaults params : Params) : MatrixConfig where
  jobs := [⟨"longevity", false, "", params⟩]
  defaults := defaults
  requiredParams := [requiredParam]

def tarballMatrix : MatrixConfig :=
  matrixOf "sd_tarball" (Dict.empty.set "sd_tarball" (.text "sd.tar.gz")) Dict.empty

theorem tarballMatrix_provided :
    checkRequiredParams tarballMatrix Dict.empty = .ok () ∧
      ∀ job ∈ tarballMatrix.jobs, job.disabled = false → ∀ name ∈ tarballMatrix.requiredParams,
        Provided (buildJobParameters job tarballMatrix.defaults "2025.4" Dict.empty none) name := by
  have accepted : checkRequiredParams tarballMatrix Dict.empty = .ok () := by decide
  refine ⟨accepted, (required_provided_iff tarballMatrix _ "2025.4" none accepted).mpr ?_⟩
  simp [tarballMatrix, matrixOf, Reaches, perJobLocationParams, get_checkedParams, get_given]

def repoMatrix : MatrixConfig :=
  matrixOf "new_scylla_repo" (Dict.empty.set "new_scylla_repo" (.text "http://repo")) Dict.empty

def regionMatrix : MatrixConfig :=
  matrixOf "region" Dict.empty (Dict.empty.set "region" (.text ""))

def regionGiven : Params := Dict.empty.set "region" (.text "eu-west-1")

/-- Both matrices pass the check, and the job is built without a value for the parameter. -/
theorem repoMatrix_regionMatrix_not_provided :
    (checkRequiredParams repoMatrix Dict.empty = .ok () ∧
      ∃ job ∈ repoMatrix.jobs, job.disabled = false ∧
        (buildJobParameters job repoMatrix.defaults "2025.4" Dict.empty none).get
          "new_scylla_repo" = none) ∧
    checkRequiredParams regionMatrix regionGiven = .ok () ∧
      ∃ job ∈ regionMatrix.jobs, job.disabled = false ∧
        (buildJobParameters job regionMatrix.defaults "2025.4" regionGiven none).get
          "region" = some (.text "") :=
  ⟨⟨by decide +kernel, _, mem_singleton_self _, rfl, by decide +kernel⟩,
    by decide +kernel, _, mem_singleton_self _, rfl, by decide +kernel⟩

end Sct.Trigger
