import Sct.Provision.Aws.RegionFallback

/-!
# A region switch that raises

`switch_region` promises that a failed resolution of the AMIs applies no partial state. The
regions and the zones are written after the last lookup, so a raise never changes them. The AMI
parameters are written one by one, so a raise leaves those before it rewritten: the settings are
untouched exactly when every lookup before the one that raised answered with the value its
parameter already had.
-/

open Sct.Effect

namespace Sct.Aws

variable {κ : Type} (config : Config) (api : Api κ)

section

variable (aws : config.clusterBackend = "aws")
include aws

lemma resolveAmis_eq (regionNames : List String) (sourceRegion : Option String) :
    resolveAmis config api regionNames sourceRegion = (do
      zoom World.amisAndCloud World.withAmisAndCloud
        (Table.assignEach (resolveAmi config api regionNames sourceRegion) amiIdParams)
      let world ← get
      let images ← zoom World.cloud World.withCloud
        (remapTargetDbImageIds api regionNames sourceRegion world.settings.targetDbImageIds)
      modify fun world =>
        world.withSettings { world.settings with targetDbImageIds := images }) := by
  simp [resolveAmis, aws]

lemma resolveAmis_error_iff (regionNames : List String) (sourceRegion : Option String)
    (world after : World κ) (exc : Exc) :
    (resolveAmis config api regionNames sourceRegion).run world = .error exc after ↔
      (∃ part, (Table.assignEach (resolveAmi config api regionNames sourceRegion)
          amiIdParams).run world.amisAndCloud = .error exc part ∧
        after = world.withAmisAndCloud part) ∨
      ∃ part cloud, (Table.assignEach (resolveAmi config api regionNames sourceRegion)
          amiIdParams).run world.amisAndCloud = .ok () part ∧
        (remapTargetDbImageIds api regionNames sourceRegion
          world.settings.targetDbImageIds).run part.2 = .error exc cloud ∧
        after = (world.withAmisAndCloud part).withCloud cloud := by
  rw [resolveAmis_eq config api aws, bind_error_iff, zoom_error_iff]
  apply or_congr_right
  constructor
  · rintro ⟨_, middle, ran, rest⟩
    obtain ⟨part, assigned, rfl⟩ := zoom_ok_iff.mp ran
    obtain threw | ⟨_, _, got, rest⟩ := bind_error_iff.mp rest
    · simp at threw
    · obtain ⟨rfl, rfl⟩ := EStateM.Result.ok.inj got
      obtain threw | ⟨images, reached, found, wrote⟩ := bind_error_iff.mp rest
      · obtain ⟨cloud, raised, rfl⟩ := zoom_error_iff.mp threw
        exact ⟨part, cloud, assigned, raised, rfl⟩
      · simp at wrote
  · rintro ⟨part, cloud, assigned, raised, rfl⟩
    refine ⟨(), world.withAmisAndCloud part, ?_, ?_⟩
    · exact zoom_ok_iff.mpr ⟨part, assigned, rfl⟩
    · refine bind_error_iff.mpr (.inr ⟨_, _, rfl, ?_⟩)
      exact bind_error_iff.mpr (.inl
        (zoom_error_iff.mpr ⟨cloud, raised, rfl⟩))

lemma resolveAmis_ok {regionNames : List String} {sourceRegion : Option String}
    {world after : World κ}
    (ran : (resolveAmis config api regionNames sourceRegion).run world = .ok () after) :
    ∃ part, (Table.assignEach (resolveAmi config api regionNames sourceRegion)
        amiIdParams).run world.amisAndCloud = .ok () part ∧ after.settings.amis = part.1 := by
  rw [resolveAmis_eq config api aws] at ran
  obtain ⟨_, middle, zoomed, rest⟩ := bind_ok_iff.mp ran
  obtain ⟨part, assigned, rfl⟩ := zoom_ok_iff.mp zoomed
  obtain ⟨_, _, got, later⟩ := bind_ok_iff.mp rest
  obtain ⟨rfl, rfl⟩ := EStateM.Result.ok.inj got
  obtain ⟨images, reached, remapped, wrote⟩ := bind_ok_iff.mp later
  obtain ⟨cloud, _, rfl⟩ := zoom_ok_iff.mp remapped
  obtain ⟨_, rfl⟩ := EStateM.Result.ok.inj wrote
  exact ⟨part, assigned, rfl⟩

end

def World.switching (world : World κ) (region : String) (sourceRegion : Option String) :
    World κ :=
  { world with history :=
      world.history ++ [.switchRegion region sourceRegion world.settings world.cloud] }

variable (region : String) (azLetters : List String) (sourceRegion : Option String)
  (invalidateCaches : κ → κ)

lemma switchRegion_error_iff (world after : World κ) (exc : Exc) :
    (switchRegion config api region azLetters sourceRegion invalidateCaches).run world =
        .error exc after ↔
      (resolveAmis config api [region] sourceRegion).run (world.switching region sourceRegion) =
        .error exc after := by
  unfold switchRegion
  rw [EStateM.run_bind]
  change (resolveAmis config api [region] sourceRegion >>= _).run
    (world.switching region sourceRegion) = _ ↔ _
  rw [bind_error_iff]
  constructor
  · rintro (raised | ⟨_, middle, _, wrote⟩)
    · exact raised
    · exact nomatch wrote
  · exact .inl

lemma switchRegion_ok_iff (world after : World κ) :
    (switchRegion config api region azLetters sourceRegion invalidateCaches).run world =
        .ok () after ↔
      ∃ middle, (resolveAmis config api [region] sourceRegion).run
          (world.switching region sourceRegion) = .ok () middle ∧
        after = (middle.withPlacement (.moved region azLetters)).withCloud
          (api.forgetReservations (invalidateCaches middle.cloud)) := by
  unfold switchRegion
  rw [EStateM.run_bind]
  change (resolveAmis config api [region] sourceRegion >>= _).run
    (world.switching region sourceRegion) = _ ↔ _
  rw [bind_ok_iff]
  constructor
  · rintro ⟨_, middle, resolved, wrote⟩
    exact ⟨middle, resolved, (EStateM.Result.ok.inj wrote).2.symm⟩
  · rintro ⟨middle, resolved, rfl⟩
    exact ⟨(), middle, resolved, rfl⟩

/-- A switch that raises leaves the settings as they were. -/
def RaisesUnchanged (world : World κ) : Prop :=
  ∀ exc after, (switchRegion config api region azLetters sourceRegion invalidateCaches).run world =
    .error exc after → after.settings = world.settings

/-- Whenever a lookup of a switch raises, every parameter looked up before it was found to be
what it is. -/
structure EarlierAnswersStand (settings : Settings) (cloud : κ) : Prop where
  parameters : Table.AnswersStand (resolveAmi config api [region] sourceRegion)
    settings.amis amiIdParams cloud
  targets : ∀ values middle exc after,
    (Table.answers (resolveAmi config api [region] sourceRegion) settings.amis
      amiIdParams).run cloud = .ok values middle →
    (remapTargetDbImageIds api [region] sourceRegion settings.targetDbImageIds).run middle =
      .error exc after → Table.Stand settings.amis amiIdParams values

variable {config api region azLetters sourceRegion invalidateCaches}

lemma withAmis_settings_iff (world : World κ) (amis : AmiParam → Option String) :
    { world.settings with amis := amis } = world.settings ↔ amis = world.settings.amis := by
  constructor
  · intro same
    exact congrArg Settings.amis same
  · rintro rfl
    rfl

variable {world : World κ}

lemma EarlierAnswersStand.unchanged (stand : config.clusterBackend = "aws" →
      EarlierAnswersStand config api region sourceRegion world.settings world.cloud) :
    RaisesUnchanged config api region azLetters sourceRegion invalidateCaches world := by
  intro exc after raised
  rw [switchRegion_error_iff] at raised
  by_cases aws : config.clusterBackend = "aws"
  · obtain ⟨part, failed, rfl⟩ | ⟨part, cloud, ran, failed, rfl⟩ :=
      (resolveAmis_error_iff config api aws _ _ _ _ _).mp raised
    · refine (withAmis_settings_iff world part.1).mpr ?_
      exact (Table.assignEach_atomic_iff amiIdParams_nodup _ _).mpr (stand aws).parameters exc part
        failed
    · obtain ⟨values, answered, wrote⟩ :=
        (Table.assignEach_ok_iff amiIdParams_nodup _ _ part).mp ran
      have length := Table.answers_length answered
      have stands := (stand aws).targets values part.2 exc cloud answered failed
      refine (withAmis_settings_iff world part.1).mpr ?_
      rw [wrote]
      exact (Table.write_eq_iff amiIdParams_nodup length world.settings.amis).mpr stands
  · simp [resolveAmis, aws] at raised

lemma RaisesUnchanged.earlierAnswersStand (aws : config.clusterBackend = "aws")
    (unchanged : RaisesUnchanged config api region azLetters sourceRegion invalidateCaches world) :
    EarlierAnswersStand config api region sourceRegion world.settings world.cloud := by
  have kept : ∀ exc after, (resolveAmis config api [region] sourceRegion).run
      (world.switching region sourceRegion) = .error exc after →
      after.settings = world.settings := by
    intro exc after raised
    exact unchanged exc after ((switchRegion_error_iff config api _ _ _ _ _ _ _).mpr raised)
  simp only [resolveAmis_error_iff config api aws] at kept
  constructor
  · refine (Table.assignEach_atomic_iff amiIdParams_nodup _ _).mp fun exc part raised => ?_
    have same := kept exc _ (.inl ⟨part, raised, rfl⟩)
    exact (withAmis_settings_iff world part.1).mp same
  · intro values middle exc after answered raised
    have ran := (Table.assignEach_ok_iff amiIdParams_nodup world.settings.amis world.cloud
      (Table.write world.settings.amis amiIdParams values, middle)).mpr ⟨values, answered, rfl⟩
    have same := kept exc _ (.inr ⟨_, after, ran, raised, rfl⟩)
    have length := Table.answers_length answered
    exact (Table.write_eq_iff amiIdParams_nodup length world.settings.amis).mp
      ((withAmis_settings_iff world _).mp same)

variable (config api region azLetters sourceRegion invalidateCaches)

/-- A switch that raises leaves the settings as they were exactly when, on AWS, every lookup
before the one that raised answered with what was there. -/
theorem switchRegion_unchanged_iff (world : World κ) :
    RaisesUnchanged config api region azLetters sourceRegion invalidateCaches world ↔
      (config.clusterBackend = "aws" →
        EarlierAnswersStand config api region sourceRegion world.settings world.cloud) := by
  constructor
  · intro unchanged aws
    exact unchanged.earlierAnswersStand aws
  · exact EarlierAnswersStand.unchanged

/-! ## A switch that fails half way -/

def dbImageOnly : Api Unit where
  getSsmAmi _ _ := throw (.raised (.clientError ["ParameterNotFound"]) "no such parameter")
  getByOwnerAmi _ _ := throw (.raised .valueError "no such image")
  newestImage _ _ _ _ := pure none
  findEquivalentAmi amiId _ region :=
    pure (if amiId = "ami-db-east" ∧ region = "us-west-2" then ["ami-db-west"] else [])
  cancelAllRegions _ := pure ()
  terminateStrayInstances _ _ := pure ()
  deleteKmsAlias _ _ := pure ()
  forgetReservations := id

def awsConfig : Config where
  clusterBackend := "aws"
  amiParamsSnapshot _ := none
  testId := some "id"
  reuseCluster := false
  useCapacityReservation := false
  useDedicatedHost := false
  instanceProvision := "spot"
  nDbNodes := some [3]
  simulatedRegions := 0
  xcloudProvider := none
  fallbackToNextRegion := true
  fallbackToNextAvailabilityZone := some false
  awsFallbackToNextAvailabilityZone := false

def eastWorld : World Unit where
  settings :=
    { placement := ⟨none, some "us-east-1", some "a"⟩
      amis := fun
        | .amiIdDbScylla => some "ami-db-east"
        | .amiIdLoader => some "ami-loader-east"
        | _ => none
      targetDbImageIds := [] }
  cloud := ()
  history := []

/-- The loader image has no equivalent in the target region: the switch raises with the DB image
of that region in the settings. -/
theorem dbImageOnly_leaves_db_image :
    ¬ RaisesUnchanged awsConfig dbImageOnly "us-west-2" ["a"] (some "us-east-1") id eastWorld := by
  intro unchanged
  have raised : ∃ exc after, (switchRegion awsConfig dbImageOnly "us-west-2" ["a"]
      (some "us-east-1") id).run eastWorld = .error exc after ∧
      after.settings.amis .amiIdDbScylla = some "ami-db-west" := ⟨_, _, rfl, by decide⟩
  obtain ⟨exc, after, ran, moved⟩ := raised
  rw [unchanged exc after ran] at moved
  exact absurd moved (by decide)

end Sct.Aws
