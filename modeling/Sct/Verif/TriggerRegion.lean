import Sct.Trigger.Resolution
import Sct.Verif.TriggerMatrix

/-!
# The region of the images and the region of the job

The target of a job's images takes the first true region of the job, the override and the defaults.
The parameters of the job take the region of the first of them that has the key at all, an override
that is null apart. The two agree unless a region that is present but false hides a later one, or
the region holds a placeholder.
-/

namespace Sct.Trigger

variable (loads : JsonLoads) (job : TriggerJob) (defaults overrides : Params) (version : String)
  (branchSource : Option String)

/-- What the placeholders of a text are replaced by in a job's parameters. -/
def templatesResolved (version : String) (branchSource : Option String) (value : ParamValue) :
    ParamValue :=
  let branch := extractBranchFromVersion ((truthy branchSource).getD version)
  if branch = "" then value else resolveTemplates branch (branchDirectoryId branch) value

def passedRegion : Option ParamValue :=
  (job.params.get "region").or
    (((overrides.get "region").filter (· ≠ .null)).or (defaults.get "region"))

lemma get_region_built :
    (buildJobParameters job.toJobConfig defaults version overrides branchSource).get "region" =
      (passedRegion job defaults overrides).map (templatesResolved version branchSource) := by
  have merged := get_mergedParams ⟨[], defaults, []⟩ overrides job.toJobConfig "region"
  have listed : "region" ∈ perJobLocationParams := List.mem_cons_self
  have sources : (mergedParams job.toJobConfig defaults overrides).get "region" =
      passedRegion job defaults overrides := by
    rw [merged, if_pos listed, get_checkedParams, get_given, passedRegion]
    cases job.params.get "region" <;> simp
  have steps : (forJobKind (withThrottleCategory job.jobThrottleCategory
      (withVersion version (mergedParams job.toJobConfig defaults overrides)))).get "region" =
      passedRegion job defaults overrides := by
    rw [get_forJobKind, get_withThrottleCategory (.inl (by decide)), get_withVersion, sources]
    simp
  unfold buildJobParameters templatesResolved
  dsimp only
  split
  · rw [steps, Option.map_id']
  · rw [Dict.get_mapValues, steps]

/-- The region a job is triggered with, the backend's default for a missing one. -/
def triggeredRegion : Option String :=
  backendRegion loads job.backend
    (((buildJobParameters job.toJobConfig defaults version overrides branchSource).get
      "region").getD .null)

/-- The images are looked up in the region the job is triggered with. -/
def SameRegion : Prop :=
  ∀ target, targetForJob loads job defaults (overrides.get "region") = some target →
    triggeredRegion loads job defaults overrides version branchSource = some target.region

def regionsOrDefault (backend : Backend) (regions : List String) : String :=
  if regions = [] then backend.defaultRegion else ",".intercalate regions

/-- The first source that has a region has a true one whose placeholders do not matter, or it has a
false one and the region of the images names none or the backend's default. -/
def RegionDecided : Prop :=
  job.backend.regional = true → ∀ value, passedRegion job defaults overrides = some value →
    if value.truthy then
      ∀ text resolved, value = .text text →
        templatesResolved version branchSource value = .text resolved →
        regionsOrDefault job.backend (splitRegions loads resolved) =
          regionsOrDefault job.backend (splitRegions loads text)
    else
      ∀ text, targetRegion job defaults (overrides.get "region") = .text text →
        regionsOrDefault job.backend (splitRegions loads text) = job.backend.defaultRegion

/-! ## Regions of values -/

variable {loads} {backend : Backend}

lemma backendRegion_text (regional : backend.regional = true) (text : String) :
    backendRegion loads backend (.text text) =
      some (regionsOrDefault backend (splitRegions loads text)) := by
  rw [backendRegion, if_pos regional]
  by_cases empty : text = ""
  · subst empty
    rfl
  · have visible : (ParamValue.text text).truthy = true := decide_eq_true empty
    simp only [splitRegionValue, visible, if_true]
    rfl

variable {value : ParamValue}

lemma backendRegion_false (regional : backend.regional = true) (missing : value.truthy = false) :
    backendRegion loads backend value = some backend.defaultRegion := by
  have split : splitRegionValue loads value = some [] := by
    unfold splitRegionValue
    rw [missing]
    rfl
  rw [backendRegion, if_pos regional, split]
  rfl

lemma backendRegion_eq_some (regional : backend.regional = true) {region : String}
    (found : backendRegion loads backend value = some region) :
    (∃ text, value = .text text) ∨ value.truthy = false := by
  by_cases visible : value.truthy = true
  · cases value with
    | text text => exact Or.inl ⟨text, rfl⟩
    | null => exact Or.inr rfl
    | scalar shown =>
      have raised : splitRegionValue loads (.scalar shown) = none := if_pos visible
      rw [backendRegion, if_pos regional, raised] at found
      cases found
  · exact Or.inr (Bool.eq_false_iff.mpr visible)

/-! ## Placeholders -/

lemma templatesResolved_text (text : String) :
    ∃ resolved, templatesResolved version branchSource (.text text) = .text resolved := by
  unfold templatesResolved
  dsimp only
  split
  · exact ⟨text, rfl⟩
  · exact ⟨_, rfl⟩

lemma templatesResolved_false (missing : value.truthy = false) :
    (templatesResolved version branchSource value).truthy = false := by
  unfold templatesResolved
  dsimp only
  split
  · exact missing
  · cases value with
    | text text =>
      have empty : text = "" := by simpa [ParamValue.truthy] using missing
      subst empty
      rfl
    | null => rfl
    | scalar shown => exact missing

/-! ## The two choices -/

variable {job defaults overrides}

lemma targetRegion_of_truthy (passed : passedRegion job defaults overrides = some value)
    (visible : value.truthy = true) :
    targetRegion job defaults (overrides.get "region") = value := by
  unfold passedRegion at passed
  unfold targetRegion
  cases own : job.params.get "region" with
  | some region =>
    rw [own, Option.some_or] at passed
    cases passed
    exact if_pos visible
  | none =>
    rw [own, Option.none_or] at passed
    cases given : overrides.get "region" with
    | none =>
      rw [given, Option.filter_none, Option.none_or] at passed
      rw [passed]
      rfl
    | some region =>
      by_cases null : region = .null
      · subst null
        rw [given] at passed
        have fromDefaults : defaults.get "region" = some value := passed
        rw [fromDefaults]
        rfl
      · rw [given, Option.filter_some, if_pos (decide_eq_true null), Option.some_or] at passed
        cases passed
        exact if_pos visible

lemma targetRegion_of_none (passed : passedRegion job defaults overrides = none) :
    (targetRegion job defaults (overrides.get "region")).truthy = false := by
  unfold passedRegion at passed
  rw [Option.or_eq_none_iff, Option.or_eq_none_iff] at passed
  obtain ⟨own, given, default⟩ := passed
  rw [targetRegion, own, default]
  cases region : overrides.get "region" with
  | none => rfl
  | some value =>
    rw [region, Option.filter_eq_none_iff] at given
    have null : value = .null := by simpa using given value rfl
    subst null
    rfl

/-- The images are looked up in the region the job is triggered with exactly when the region is
decided. -/
theorem sameRegion_iff (loads : JsonLoads) (job : TriggerJob) (defaults overrides : Params)
    (version : String) (branchSource : Option String) :
    SameRegion loads job defaults overrides version branchSource ↔
      RegionDecided loads job defaults overrides version branchSource := by
  unfold SameRegion RegionDecided triggeredRegion
  rw [get_region_built]
  have target {found : BackendTarget} :
      targetForJob loads job defaults (overrides.get "region") = some found →
        backendRegion loads job.backend (targetRegion job defaults (overrides.get "region")) =
          some found.region := by
    intro built
    obtain ⟨region, looked, rfl⟩ := Option.map_eq_some_iff.mp built
    exact looked
  have looked {region : String} :
      backendRegion loads job.backend (targetRegion job defaults (overrides.get "region")) =
          some region →
        targetForJob loads job defaults (overrides.get "region") =
          some ⟨job.backend, region, jobArch job⟩ := fun found => by
    rw [targetForJob, found, Option.map_some]
  by_cases regional : job.backend.regional = true
  · cases passed : passedRegion job defaults overrides with
    | none =>
      have missing := targetRegion_of_none passed
      have default : backendRegion loads job.backend .null = some job.backend.defaultRegion :=
        backendRegion_false regional rfl
      refine iff_of_true (fun found built => ?_) (fun _ value some => nomatch some)
      rw [← target built, backendRegion_false regional missing]
      exact default
    | some value =>
      rw [Option.map_some, Option.getD_some]
      by_cases visible : value.truthy = true
      · -- The images follow the same value, before its placeholders are replaced.
        rw [targetRegion_of_truthy passed visible] at target looked
        constructor
        · intro same _ other equal
          cases equal
          rw [if_pos visible]
          rintro text resolved rfl replaced
          have region := same _ (looked (backendRegion_text regional text))
          rw [replaced, backendRegion_text regional] at region
          dsimp only at region
          exact Option.some.inj region
        · intro decided found built
          have agreed := decided regional value rfl
          rw [if_pos visible] at agreed
          obtain ⟨text, rfl⟩ := (backendRegion_eq_some regional (target built)).resolve_right
            (Bool.not_eq_false _ ▸ visible)
          obtain ⟨resolved, replaced⟩ := templatesResolved_text version branchSource text
          rw [← target built, replaced, backendRegion_text regional, backendRegion_text regional,
            agreed text resolved rfl replaced]
      · -- The job runs in the default region, wherever the images are looked up.
        have missing : value.truthy = false := Bool.eq_false_iff.mpr visible
        have default : backendRegion loads job.backend
            (templatesResolved version branchSource value) = some job.backend.defaultRegion :=
          backendRegion_false regional (templatesResolved_false version branchSource missing)
        rw [default]
        constructor
        · intro same _ other equal
          cases equal
          rw [if_neg visible]
          intro text picked
          rw [picked] at looked
          have region := same _ (looked (backendRegion_text regional text))
          dsimp only at region
          exact (Option.some.inj region).symm
        · intro decided found built
          have agreed := decided regional value rfl
          rw [if_neg visible] at agreed
          rw [← target built]
          rcases backendRegion_eq_some regional (target built) with ⟨text, picked⟩ | picked
          · rw [picked, backendRegion_text regional, agreed text picked]
          · rw [backendRegion_false regional picked]
  · -- A backend without regions has one lookup for all jobs.
    have none : ∀ value, backendRegion loads job.backend value = some "" := fun value =>
      if_neg regional
    refine iff_of_true (fun found built => ?_) (fun holds => absurd holds regional)
    rw [← target built, none, none]

def awsJob (params : Params) : TriggerJob where
  jobName := "longevity"
  disabled := false
  jobThrottleCategory := ""
  params := params
  backend := .aws
  arch := ""
  labels := []
  includeVersions := []
  excludeVersions := []
  preRelease := []
  wait := false
  waitTimeout := 14400
  failOnError := false
  collectResults := []

def onlyRegion (region : String) : Params := Dict.empty.set "region" (.text region)

/-- A job that pins an empty region runs in the default one, and its images are looked up in the
override's; an empty override hides the region of the defaults in the same way. -/
theorem emptyRegion_looked_up_elsewhere :
    (targetForJob (fun _ => none) (awsJob (onlyRegion "")) Dict.empty
        ((onlyRegion "us-east-1").get "region") = some ⟨.aws, "us-east-1", "x86_64"⟩ ∧
      triggeredRegion (fun _ => none) (awsJob (onlyRegion "")) Dict.empty (onlyRegion "us-east-1")
        "2025.4" none = some "eu-west-1" ∧
      ¬ SameRegion (fun _ => none) (awsJob (onlyRegion "")) Dict.empty (onlyRegion "us-east-1")
        "2025.4" none) ∧
    ¬ SameRegion (fun _ => none) (awsJob Dict.empty) (onlyRegion "eu-central-1") (onlyRegion "")
      "2025.4" none := by
  have pinned : targetForJob (fun _ => none) (awsJob (onlyRegion "")) Dict.empty
      ((onlyRegion "us-east-1").get "region") = some ⟨.aws, "us-east-1", "x86_64"⟩ := by
    decide
  have runs : triggeredRegion (fun _ => none) (awsJob (onlyRegion "")) Dict.empty
      (onlyRegion "us-east-1") "2025.4" none = some "eu-west-1" := by
    decide +kernel
  have defaulted : targetForJob (fun _ => none) (awsJob Dict.empty) (onlyRegion "eu-central-1")
      ((onlyRegion "").get "region") = some ⟨.aws, "eu-central-1", "x86_64"⟩ := by
    decide
  have hidden : triggeredRegion (fun _ => none) (awsJob Dict.empty) (onlyRegion "eu-central-1")
      (onlyRegion "") "2025.4" none = some "eu-west-1" := by
    decide +kernel
  refine ⟨⟨pinned, runs, fun same => ?_⟩, fun same => ?_⟩
  · have equal := same _ pinned
    rw [runs] at equal
    exact absurd equal (by decide)
  · have equal := same _ defaulted
    rw [hidden] at equal
    exact absurd equal (by decide)

end Sct.Trigger
