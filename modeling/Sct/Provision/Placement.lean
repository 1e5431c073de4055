import Sct.Lib.Words

/-!
# Exceptions and placement settings

Provisioning steers by the class and text of the exception an attempt raised, and by an environment
variable, a region parameter and `availability_zone`: `SCT_GCE_DATACENTER` and `gce_datacenter`, or
`SCT_REGION_NAME` and `region_name`. The parameter is the text `params.get` returns for it.
-/

namespace Sct

/-- The exception classes the provisioning code tells apart. -/
inductive ErrorClass where
  | provisionError
  | provisionUnrecoverableError
  | zoneResourcesExhaustedError
  /-- botocore's `ClientError`, with the error codes its response and its text carry. -/
  | clientError (codes : List String)
  | provisioningCapacityExhausted
  | regionAMINotFoundError
  | capacityReservationError
  | valueError
  | runtimeError
  | indexError
  /-- Every other subclass of `Exception`. -/
  | other (name : String)
  deriving DecidableEq, Repr

/-- A raised exception: its class, its text, and the region `attach_failed_region` tagged it
with. -/
structure Exc where
  /-- The class `except` clauses match on. -/
  cls : ErrorClass
  message : String
  /-- The `failed_region` attribute, absent until tagged. -/
  failedRegion : Option String
  deriving DecidableEq, Repr

def Exc.raised (cls : ErrorClass) (message : String) : Exc := ⟨cls, message, none⟩

def indexError : Exc := .raised .indexError "list index out of range"

def awsSupportedRegions : List String :=
  ["eu-west-1", "eu-west-2", "eu-west-3", "us-west-2", "us-east-1", "us-east-2", "eu-north-1",
    "eu-central-1", "ca-central-1"]

def formatOptional : Option String → String
  | none => "None"
  | some text => text

structure Placement where
  /-- The environment variable that overrides the region parameter, when set. -/
  envRegion : Option String
  /-- The region parameter, as `params.get` returns it. -/
  region : Option String
  /-- `availability_zone`, zone letters separated by commas. -/
  availabilityZone : Option String
  deriving DecidableEq, Repr

namespace Placement

variable (placement : Placement)

def parameterRegions : List String :=
  words (placement.region.getD "")

/-- `params.gce_datacenters` and `params.region_names`: the environment variable comes first. -/
def configuredRegions : List String :=
  match placement.envRegion with
  | some value => words value
  | none => placement.parameterRegions

/-- The region parameter stands in when the configured names are empty. -/
def regionNames : List String :=
  if placement.configuredRegions.isEmpty then placement.parameterRegions
  else placement.configuredRegions

/-- Point the three settings at one region and its zones. -/
def moved (region : String) (azLetters : List String) : Placement where
  envRegion := some region
  region := some region
  availabilityZone := some (",".intercalate azLetters)

/-- Replace the names of the regions in the environment and in the parameter. -/
def withRegions (names : List String) : Placement :=
  { placement with envRegion := some (unwords names), region := some (unwords names) }

/-- Put the settings back: the environment variable and the zones as given, and the region
parameter when a region is given. -/
def restored (region availabilityZone envRegion : Option String) :
    Placement where
  envRegion := envRegion
  region := if region.isSome then region else placement.region
  availabilityZone := availabilityZone

def configuredAzLetters : List String :=
  ((splitOn ',' (placement.availabilityZone.getD "")).map strip).filter (fun letter => letter ≠ "")

/-- The two settings that name regions are the same. -/
def SameRegions (left right : Placement) : Prop :=
  left.envRegion = right.envRegion ∧ left.region = right.region

/-- The region parameter spells the configured names, with single blanks between them. The
configuration loader leaves it so: it overwrites the parameter with the environment variable,
and `params.get` joins the stored names. -/
def Loaded : Prop :=
  placement.configuredRegions ≠ [] →
    placement.region = some (unwords placement.configuredRegions)

/-- The settings a region is tried with: those at entry, when it is the configured region, and
otherwise all three as a move to it writes them. -/
def TriedWith (entry : Placement) (region : String) : Prop :=
  (entry.configuredRegions = [region] ∧ placement = entry) ∨
    ∃ azLetters, placement = .moved region azLetters

variable {placement : Placement}

lemma isWord_of_mem_configuredRegions {name : String}
    (listed : name ∈ placement.configuredRegions) : IsWord name := by
  unfold configuredRegions at listed
  split at listed
  · exact isWord_of_mem_words listed
  · exact isWord_of_mem_words listed

variable {left right : Placement}

lemma SameRegions.configuredRegions_eq (same : left.SameRegions right) :
    left.configuredRegions = right.configuredRegions := by
  simp only [configuredRegions, parameterRegions, same.1, same.2]

lemma Loaded.parameterRegions_eq (loaded : placement.Loaded)
    (some : placement.configuredRegions ≠ []) :
    placement.parameterRegions = placement.configuredRegions := by
  rw [parameterRegions, loaded some, Option.getD_some]
  exact words_unwords fun name listed => isWord_of_mem_configuredRegions listed

variable {names : List String}

lemma withRegions_configuredRegions (all : ∀ name ∈ names, IsWord name) :
    (placement.withRegions names).configuredRegions = names :=
  words_unwords all

variable {entry : Placement}

lemma restored_of_loaded (loaded : entry.Loaded) (single : entry.configuredRegions.length = 1)
    (placement : Placement) :
    placement.restored entry.configuredRegions.head? entry.availabilityZone entry.envRegion =
      entry := by
  obtain ⟨name, names⟩ := List.length_eq_one_iff.mp single
  have spelled : entry.region = some name := by
    rw [loaded (by simp [names]), names]
    simp [unwords]
  rw [names]
  obtain ⟨envRegion, region, availabilityZone⟩ := entry
  simp only at spelled
  rw [spelled]
  rfl

lemma restored_unwords (loaded : entry.Loaded) (configured : entry.configuredRegions ≠ [])
    (placement : Placement) :
    placement.restored (some (unwords entry.configuredRegions)) entry.availabilityZone
      entry.envRegion = entry := by
  rw [restored, Option.isSome_some, if_pos rfl, ← loaded configured]

lemma restored_configuredRegions (single : entry.configuredRegions.length = 1)
    (placement : Placement) :
    (placement.restored entry.configuredRegions.head? entry.availabilityZone
      entry.envRegion).configuredRegions = entry.configuredRegions := by
  obtain ⟨name, names⟩ := List.length_eq_one_iff.mp single
  have listed : name ∈ entry.configuredRegions := by simp [names]
  have word := isWord_of_mem_configuredRegions listed
  cases env : entry.envRegion with
  | some value =>
    have same : entry.configuredRegions = words value := by simp [configuredRegions, env]
    rw [same]
    rfl
  | none =>
    rw [names]
    exact words_of_isWord word

end Placement

end Sct
