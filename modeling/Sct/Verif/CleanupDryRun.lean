import Sct.Cleanup.Resources

/-!
# Dry runs

Every cleaner that is told of a dry run issues no call. The step of the capacity reservations is
not told: it looks for the reservations of the test and cancels those it finds, and writes the
zone of the last of them into the parameters. A dry run leaves everything as it is exactly when
that step is not reached or finds nothing.
-/

open List
open Sct.Issued (All all_attempt all_check all_each all_nothing all_raise all_skipIf andThen skipIf)

namespace Sct.Cleanup

/-! ## What the cleaners call

Each cleaner is gone through once, for any condition on calls: what it calls meets the condition,
unless it is told of a dry run. -/

def Call.isOther : Call → Bool
  | .on _ kind _ => !([.awsInstance, .gceInstance, .ociInstance, .container, .eksCluster,
      .gkeCluster, .emrCluster, .cloudCluster, .dedicatedHost].contains kind)
  | .cancelFleets _ _ | .deleteGroup _ | .deleteVm _ _ | .cleanUpHost _ _ => false
  | _ => true

section Cleaners

variable {permits : Call → Prop} {world : World} {config : Config} {tags : Tags}
  {regions : List String} {dryRun : Bool}

section Other

variable (other : dryRun = false → ∀ call : Call, call.isOther = true → permits call)
include other

lemma all_cleanTestSecurityGroups :
    All permits (cleanTestSecurityGroups world tags regions dryRun) :=
  (all_assertTags tags).andThen (all_deleteEachIn world fun real _ _ => other real _ rfl)

lemma all_cleanLaunchTemplatesAws :
    All permits (cleanLaunchTemplatesAws world tags regions dryRun) :=
  (all_assertTags tags).andThen (all_deleteEachIn world fun real _ _ => other real _ rfl)

lemma all_cleanLoadBalancersAws :
    All permits (cleanLoadBalancersAws world tags regions dryRun) :=
  all_unlessTypeMissing fun _ =>
    (all_assertTags tags).andThen (all_deleteEachIn world fun real _ _ => other real _ rfl)

lemma all_cleanCloudformationStacksAws :
    All permits (cleanCloudformationStacksAws world tags regions dryRun) :=
  all_unlessTypeMissing fun _ =>
    (all_assertTags tags).andThen (all_deleteEachIn world fun real _ _ => other real _ rfl)

lemma all_cleanElasticIpsAws :
    All permits (cleanElasticIpsAws world tags regions dryRun) := by
  apply (all_assertTags tags).andThen
  apply all_inRegions
  intro scanned
  apply all_each
  intro eip _
  apply All.andThen
  · apply all_skipIf
    intro real
    exact all_attempt (other (Bool.or_eq_false_iff.mp real).2 _ rfl)
  · apply all_skipIf
    intro real
    exact all_attempt (other real _ rfl)

lemma all_cleanPlacementGroupsAws :
    All permits (cleanPlacementGroupsAws world tags regions dryRun) := by
  unfold cleanPlacementGroupsAws
  split
  · exact all_raise
  · apply All.retrying
    apply all_inRegions
    intro scanned
    apply all_each
    intro group _
    apply all_skipIf
    intro real
    exact all_attempt (other real _ rfl)

lemma all_cleanResolvedPlacement :
    All permits (cleanResolvedPlacement world tags dryRun) := by
  unfold cleanResolvedPlacement
  split
  · exact all_nothing
  · apply all_skipIf
    intro real
    exact all_attempt (other real _ rfl)

lemma all_cleanOrphanedGkeDisks :
    All permits (cleanOrphanedGkeDisks world tags dryRun) := by
  apply all_unlessTypeMissing
  intro _
  apply All.guarded
  apply all_skipIf
  intro real
  apply all_each
  intro zone _
  exact all_attempt (other real _ rfl)

lemma all_cleanOrphanBlockVolumesOci :
    All permits (cleanOrphanBlockVolumesOci world tags dryRun) := by
  unfold cleanOrphanBlockVolumesOci
  split
  · exact all_nothing
  · apply all_each
    intro volume _
    apply all_skipIf
    intro real
    have once : All permits (call world .delete .ociVolume volume) :=
      all_attempt (other real _ rfl)
    apply All.guarded
    split
    · exact once.retrying 60
    · exact once

lemma all_cleanBlackholeRoutesAws :
    All permits (cleanBlackholeRoutesAws world config regions dryRun) := by
  apply all_each
  intro region _
  split
  · exact all_raise
  · apply all_each
    intro route _
    apply all_skipIf
    intro real
    exact all_attempt (other real _ rfl)

lemma all_cleanInactivePeeringsGce :
    All permits (cleanInactivePeeringsGce world config regions dryRun) := by
  apply all_each
  intro region _
  split
  · exact all_raise
  · apply all_each
    intro peering _
    apply all_skipIf
    intro real
    have once : All permits (call world .delete .networkPeering peering) :=
      all_attempt (other real _ rfl)
    split
    · exact once.retrying 5
    · exact once

end Other

lemma all_cleanSpotFleetRequestsAws
    (permitted : dryRun = false → ∀ region requests,
      (∀ request ∈ requests, hasTags tags request = true) →
        permits (.cancelFleets region requests)) :
    All permits (cleanSpotFleetRequestsAws world tags regions dryRun) := by
  apply (all_assertTags tags).andThen
  apply all_each
  intro region _
  unfold cancelFleetsIn
  simp only
  split
  · exact all_nothing
  · apply all_skipIf
    intro real
    apply All.guarded
    apply all_attempt
    apply permitted real
    intro request listed
    exact (Bool.and_eq_true_iff.mp (mem_filter.mp listed).2).2

lemma all_cleanInstancesAws
    (permitted : dryRun = false → ∀ resource, hasTags tags resource = true →
      permits (.on .terminate .awsInstance resource)) :
    All permits (cleanInstancesAws world tags regions dryRun) := by
  apply (all_assertTags tags).andThen
  apply all_inRegions
  intro scanned
  apply all_each
  intro resource found
  split
  · exact all_nothing
  · apply all_skipIf
    intro real
    have both := of_mem_listIn found
    rw [Bool.and_eq_true] at both
    exact all_reportedCall (permitted real resource both.1)

lemma all_releaseByTags
    (permitted : dryRun = false → ∀ host, permits (.on .release .dedicatedHost host)) :
    All permits (releaseByTags world tags regions dryRun) := by
  apply (all_assertTags _).andThen
  apply all_inRegions
  intro scanned
  apply all_each
  intro host _
  apply all_skipIf
  intro real
  exact all_attempt (permitted real host)

lemma all_cleanClustersEks
    (permitted : Asked tags "k8s" → dryRun = false → ∀ cluster,
      permits (.on .delete .eksCluster cluster)) :
    All permits (cleanClustersEks world tags regions dryRun) := by
  apply all_unlessTypeMissing
  intro asked
  apply (all_assertTags tags).andThen
  apply all_inRegions
  intro scanned
  apply all_each
  intro cluster _
  apply all_skipIf
  intro real
  exact (all_attempt (permitted asked real cluster)).guarded

lemma all_cleanClustersGke
    (permitted : Asked tags "k8s" → dryRun = false → ∀ cluster,
      permits (.on .delete .gkeCluster cluster)) :
    All permits (cleanClustersGke world tags dryRun) := by
  apply all_unlessTypeMissing
  intro asked
  apply (all_assertTags tags).andThen
  apply all_each
  intro cluster _
  apply all_skipIf
  intro real
  exact (all_attempt (permitted asked real cluster)).guarded

lemma all_cleanEmrClusters
    (permitted : dryRun = false → ∀ cluster, hasTexts tags cluster = true →
      permits (.on .terminate .emrCluster cluster)) :
    All permits (cleanEmrClusters world tags regions dryRun) := by
  apply (all_assertTags tags).andThen
  apply all_inRegions
  intro scanned
  apply all_each
  intro region _
  apply all_each
  intro cluster listed
  apply all_skipIf
  intro real
  have filtered := Bool.and_eq_true_iff.mp (mem_filter.mp listed).2
  exact (all_attempt (permitted real cluster filtered.2)).guarded

lemma all_cleanInstancesOci
    (permitted : dryRun = false → ∀ action resource, action = .stop ∨ hasTags tags resource = true →
      permits (.on action .ociInstance resource)) :
    All permits (cleanInstancesOci world tags dryRun) := by
  unfold cleanInstancesOci
  split
  · exact all_nothing
  · apply all_each
    intro resource found
    split
    · exact all_nothing
    · split
      · apply all_skipIf
        intro real
        exact (all_reportedCall (permitted real _ resource (.inr (of_mem_listIn found)))).guarded
      · split
        · apply all_skipIf
          intro real
          exact (all_attempt (permitted real _ resource (.inl rfl))).guarded
        · exact all_nothing

end Cleaners

/-! ## Silent cleaners -/

/-- A run that issues no call. -/
abbrev Silent (run : Issued Call) : Prop := All (fun _ => False) run

variable {run : Issued Call}

lemma silent_iff : Silent run ↔ run.calls = [] := by
  rw [eq_nil_iff_forall_not_mem]
  exact ⟨fun silent => silent.permits_of_mem, fun none => ⟨none⟩⟩

lemma silent_skipIf : Silent (skipIf true run) := all_nothing

section Silent

variable {world : World} {config : Config} {tags : Tags} {regions : List String}

lemma not_real {conclusion : Prop} (real : true = false) : conclusion := nomatch real

lemma silent_cleanInstancesGce : Silent (cleanInstancesGce world tags true) := by
  apply (all_assertTags tags).andThen
  split
  · exact all_raise
  · apply Issued.all_parallel_iff.mpr
    intro resource _
    exact silent_skipIf

lemma silent_cleanResourcesDocker : Silent (cleanResourcesDocker world tags true) := by
  apply (all_assertTags tags).andThen
  split
  · exact all_raise
  · split
    · exact all_raise
    · apply All.andThen
      · apply all_each
        intro container _
        exact ((all_check _).andThen silent_skipIf).guarded
      · apply all_each
        intro image _
        exact silent_skipIf

lemma silent_cleanResourcesBaremetal :
    Silent (cleanResourcesBaremetal world config tags true) := by
  unfold cleanResourcesBaremetal
  split
  · exact all_nothing
  · apply All.andThen
    · apply all_skipIf
      intro _
      exact silent_cleanResourcesDocker
    · apply all_each
      intro part _
      unfold cleanHosts
      split
      · exact all_raise
      · apply all_each
        intro address _
        exact silent_skipIf

lemma silent_cleanInstancesAzure : Silent (cleanInstancesAzure world tags regions true) := by
  apply (all_check _).andThen
  split
  · exact all_raise
  · apply all_each
    intro provisioner _
    unfold cleanGroup
    simp only
    split
    · exact silent_skipIf
    · exact silent_skipIf

lemma silent_cleanProviderSide : Silent (cleanProviderSide world config tags true) := by
  unfold cleanProviderSide
  split
  · exact (all_cleanInstancesAws not_real).andThen <| (all_cleanElasticIpsAws not_real).andThen <|
      (all_cleanTestSecurityGroups not_real).andThen <|
      (all_cleanPlacementGroupsAws not_real).andThen (all_cleanBlackholeRoutesAws not_real)
  · split
    · exact silent_cleanInstancesGce.andThen (all_cleanInactivePeeringsGce not_real)
    · exact all_nothing

lemma silent_cleanClustersScyllaCloud :
    Silent (cleanClustersScyllaCloud world config tags true) := by
  apply (all_assertTags tags).andThen
  apply all_unlessTypeMissing
  intro _
  split
  · exact all_raise
  · split
    · exact all_nothing
    · refine All.andThen ?_ silent_cleanProviderSide
      apply all_each
      intro cluster _
      exact silent_skipIf

end Silent

/-! ## The steps -/

section Steps

variable {world : World} {config : Config} {tags : Tags} (world : World)

lemma silent_stepsBefore (config : Config) (tags : Tags) :
    ∀ step ∈ stepsBefore world config tags true, Silent step := by
  unfold stepsBefore
  simp only [forall_mem_append, forall_mem_forBackends_iff, forall_mem_cons,
    not_mem_nil, false_implies, implies_true, and_true]
  refine ⟨⟨⟨fun _ => ?_, fun _ => ?_⟩, fun _ => ?_⟩, fun _ => ?_⟩
  · exact ⟨all_cleanClustersEks fun _ => not_real, all_cleanLaunchTemplatesAws not_real,
      all_cleanLoadBalancersAws not_real, all_cleanCloudformationStacksAws not_real⟩
  · exact ⟨all_cleanClustersGke fun _ => not_real, all_cleanOrphanedGkeDisks not_real⟩
  · exact all_cleanEmrClusters not_real
  · exact ⟨all_cleanSpotFleetRequestsAws not_real, all_cleanInstancesAws not_real⟩

lemma silent_stepsAfter (config : Config) (tags : Tags) :
    ∀ step ∈ stepsAfter world config tags true, Silent step := by
  unfold stepsAfter
  simp only [forall_mem_append, forall_mem_forBackends_iff, forall_mem_cons,
    not_mem_nil, false_implies, implies_true, and_true, Bool.or_true]
  refine ⟨⟨⟨⟨⟨fun _ => ?_, fun _ => ?_⟩, fun _ => ?_⟩, silent_cleanResourcesDocker⟩, fun _ => ?_⟩,
    fun _ => ?_⟩
  · exact ⟨all_releaseByTags not_real, all_cleanElasticIpsAws not_real,
      all_cleanTestSecurityGroups not_real, all_cleanPlacementGroupsAws not_real, silent_skipIf,
      all_cleanResolvedPlacement not_real⟩
  · exact silent_cleanInstancesGce
  · exact silent_cleanInstancesAzure
  · exact silent_cleanClustersScyllaCloud
  · exact ⟨all_cleanInstancesOci not_real, all_cleanOrphanBlockVolumesOci not_real⟩

/-- A dry run that has something to look for makes the calls of the capacity reservations, on the
backends that have them; any other makes none. -/
lemma cleanCloudResources_dryRun (config : Config) (tags : Tags) (settings : Settings) :
    let reserved := if ("TestId" ∉ tags ∧ "RunByUser" ∉ tags) ∨
        config.clusterBackend ∉ ["aws", "k8s-eks", ""] then (.nothing, settings)
      else cleanCapacityReservations world config true settings
    (cleanCloudResources world config tags true settings).calls = reserved.1.calls ∧
      (cleanCloudResources world config tags true settings).settings = reserved.2 := by
  have before := silent_iff.mp (all_runSteps_iff.mpr (silent_stepsBefore world config tags))
  have after := silent_iff.mp (all_runSteps_iff.mpr (silent_stepsAfter world config tags))
  by_cases missing : "TestId" ∉ tags ∧ "RunByUser" ∉ tags
  · simp [cleanCloudResources, missing]
  unfold cleanCloudResources
  rw [if_neg missing]
  by_cases reserving : config.clusterBackend ∈ ["aws", "k8s-eks", ""]
  · have cases : config.clusterBackend = "aws" ∨ config.clusterBackend = "k8s-eks" ∨
        config.clusterBackend = "" := by simpa using reserving
    have remote : ¬ startsWith config.clusterBackend "k8s-local" = true := by
      rcases cases with same | same | same <;> rw [same] <;> decide
    have virtual : config.clusterBackend ≠ "baremetal" := by
      rcases cases with same | same | same <;> rw [same] <;> decide
    rw [if_neg remote, if_neg virtual, if_neg (not_or.mpr ⟨missing, not_not.mpr reserving⟩)]
    simp only [before, after, reservationStep, contains_iff_mem, reserving, if_true, nil_append,
      append_nil, and_self]
  · rw [if_pos (.inr reserving)]
    split
    · exact ⟨rfl, rfl⟩
    · split
      · exact ⟨silent_iff.mp silent_cleanResourcesBaremetal, rfl⟩
      · simp only [before, after, reservationStep, contains_iff_mem, reserving, if_false,
          Issued.calls_nothing, append_nil, and_self]

end Steps

/-! ## The capacity reservations -/

section Reservations

variable (world : World) (config : Config) (settings : Settings)

def FindsNoReservation : Prop :=
  if config.regionNames = [] then
    -- all regions, if they can be listed and the test has an id
    config.testId = "" ∨ ∀ regions, world.allAwsRegions = some regions →
      ∀ region ∈ regions, ∀ found, activeReservations world config.testId region = some found →
        found = []
  else if config.testId = "" then
    -- what an earlier reservation left on the class
    settings.reservationIds = []
  else
    -- the first configured region
    ∀ found, activeReservations world config.testId (config.regionNames.headD "") = some found →
      found = []

variable {world config settings}

lemma calls_cancelReservations (region : String) (ids : List String) :
    (cancelReservations world region ids).calls = ids.map (.cancelReservation region) := by
  unfold cancelReservations
  induction ids with
  | nil => rfl
  | cons id rest ih =>
    rw [Issued.each, andThen, if_neg (by simp), ih]
    rfl

lemma calls_cancelAllRegions_eq_nil_iff (testId : String) :
    (cancelAllRegions world testId).calls = [] ↔
      testId = "" ∨ ∀ regions, world.allAwsRegions = some regions → ∀ region ∈ regions,
        ∀ found, activeReservations world testId region = some found → found = [] := by
  unfold cancelAllRegions
  cases listing : world.allAwsRegions with
  | none => simp
  | some regions =>
    simp only [Option.some.injEq, forall_eq']
    split
    · rename_i unset
      simp [unset]
    · rename_i set
      have quiet : ∀ region ∈ regions, (cancelReservations world region
          (((activeReservations world testId region).getD []).map Reservation.id)).raised = false := by
        intro region _
        unfold cancelReservations
        rw [Issued.raised_each_eq_false_iff]
        exact fun _ _ => rfl
      rw [or_iff_right set, eq_nil_iff_forall_not_mem]
      simp only [Issued.mem_calls_each_of_quiet quiet, calls_cancelReservations]
      constructor
      · intro none region listed found active
        rw [eq_nil_iff_forall_not_mem]
        intro reservation among
        refine none (.cancelReservation region reservation.id) ⟨region, listed, ?_⟩
        rw [active, Option.getD_some]
        exact mem_map_of_mem (mem_map_of_mem among)
      · rintro none call ⟨region, listed, issued⟩
        cases active : activeReservations world testId region with
        | none => simp [active] at issued
        | some found => simp [active, none region listed found active] at issued

lemma id_mem_recordReservation (result : Dict String (Dict String String))
    (reservation : Reservation) (zone : Option String) :
    reservation.id ∈ (Settings.mk zone (recordReservation result reservation)).reservationIds := by
  have outer : (recordReservation result reservation).get reservation.zoneLetter = some
      (((result.get reservation.zoneLetter).getD .empty).set reservation.instanceType
        reservation.id) := Dict.get_set_self _ _ _
  have inner := Dict.get_set_self ((result.get reservation.zoneLetter).getD .empty)
    reservation.instanceType reservation.id
  refine mem_flatMap.mpr ⟨_, (Dict.mem_entries_iff _ _ _).mpr outer, ?_⟩
  exact mem_map.mpr ⟨_, (Dict.mem_entries_iff _ _ _).mpr inner, rfl⟩

lemma reservationIds_eq_nil_iff (found : List Reservation) (zone : Option String) :
    (Settings.mk zone (found.foldl recordReservation .empty)).reservationIds = [] ↔ found = [] := by
  constructor
  · intro none
    rcases eq_nil_or_concat found with empty | ⟨front, last, rfl⟩
    · exact empty
    · rw [concat_eq_append, foldl_append] at none
      have listed := id_mem_recordReservation (front.foldl recordReservation .empty) last zone
      rw [foldl_cons, foldl_nil] at none
      rw [none] at listed
      exact absurd listed not_mem_nil
  · rintro rfl
    rfl

lemma calls_cancelReserved (config : Config) (settings : Settings) :
    (cancelReserved world config settings).1.calls =
      settings.reservationIds.map (.cancelReservation (config.regionNames.headD "")) := by
  unfold cancelReserved
  split
  · rename_i empty
    rw [List.isEmpty_iff] at empty
    unfold Settings.reservationIds
    rw [empty]
    rfl
  · exact calls_cancelReservations _ _

lemma calls_cleanCapacityReservations_eq_nil_iff :
    (cleanCapacityReservations world config true settings).1.calls = [] ↔
      FindsNoReservation world config settings := by
  have once : (cleanCapacityReservations world config true settings).1.calls =
      (cancelConfigured world config settings).1.calls := by
    unfold cleanCapacityReservations skipIf andThen
    simp only [Bool.true_or, if_true, Issued.calls_nothing, append_nil]
    split <;> rfl
  rw [once]
  unfold cancelConfigured FindsNoReservation
  by_cases anywhere : config.regionNames = []
  · rw [if_pos anywhere, if_pos (by simpa using anywhere)]
    exact calls_cancelAllRegions_eq_nil_iff config.testId
  · rw [if_neg anywhere, if_neg (by simpa using anywhere)]
    unfold getCrFromAws
    by_cases unset : config.testId = ""
    · rw [if_pos unset, if_pos unset]
      simp only [calls_cancelReserved, map_eq_nil_iff]
    · rw [if_neg unset, if_neg unset]
      cases activeReservations world config.testId (config.regionNames.headD "") with
      | none => simp
      | some found =>
        simp only [Option.some.injEq, forall_eq', calls_cancelReserved, map_eq_nil_iff]
        exact reservationIds_eq_nil_iff found _

lemma availabilityZone_cleanCapacityReservations
    (none : FindsNoReservation world config settings) :
    (cleanCapacityReservations world config true settings).2.availabilityZone =
      settings.availabilityZone := by
  have kept (fetched : Settings) : (cancelReserved world config fetched).2.availabilityZone =
      fetched.availabilityZone := by
    unfold cancelReserved
    split <;> rfl
  change (cancelConfigured world config settings).2.availabilityZone = _
  unfold FindsNoReservation at none
  unfold cancelConfigured
  by_cases anywhere : config.regionNames = []
  · rw [if_pos (by simpa using anywhere)]
  · rw [if_neg anywhere] at none
    rw [if_neg (by simpa using anywhere)]
    unfold getCrFromAws
    by_cases unset : config.testId = ""
    · rw [if_pos unset]
      exact kept settings
    · rw [if_neg unset] at none ⊢
      cases found : activeReservations world config.testId (config.regionNames.headD "") with
      | none => rfl
      | some reservations =>
        rw [none reservations found]
        exact kept _

end Reservations

/-- A dry run issues no call and leaves the parameters exactly if it does not reach the step of
the capacity reservations or that step finds none. -/
theorem dryRun_leaves_iff (world : World) (config : Config) (tags : Tags) (settings : Settings) :
    ((cleanCloudResources world config tags true settings).calls = [] ∧
      (cleanCloudResources world config tags true settings).settings.availabilityZone =
        settings.availabilityZone) ↔
    ("TestId" ∉ tags ∧ "RunByUser" ∉ tags) ∨
      config.clusterBackend ∉ ["aws", "k8s-eks", ""] ∨ FindsNoReservation world config settings := by
  obtain ⟨calls, left⟩ := cleanCloudResources_dryRun world config tags settings
  rw [calls, left, ← or_assoc]
  split
  · rename_i skipped
    exact iff_of_true ⟨rfl, rfl⟩ (.inl skipped)
  · rename_i reserving
    rw [calls_cleanCapacityReservations_eq_nil_iff, or_iff_right reserving]
    exact ⟨And.left, fun none => ⟨none, availabilityZone_cleanCapacityReservations none⟩⟩

def awsConfig : Config where
  clusterBackend := "aws"
  regionNames := ["eu-west-1"]
  fallbackToNextRegion := false
  azureRegionName := []
  gceDatacenters := []
  testId := "test-1"
  publicConnections := false
  xcloudProvider := ""
  xcloudRegion := ""
  postBehavior := fun _ => some "destroy"
  dbType := "scylla"

def reservedWorld : World :=
  { World.bare with reservations := fun _ => some [⟨"cr-1", "b", "i4i.large", "test-1"⟩] }

/-- A dry run cancels the reservation and changes the configured zone. -/
theorem dryRun_cancels_reservation :
    (cleanCloudResources reservedWorld awsConfig (Dict.empty.set "TestId" (.text "test-1")) true
        ⟨some "a", Dict.empty⟩).calls = [.cancelReservation "eu-west-1" "cr-1"] ∧
      (cleanCloudResources reservedWorld awsConfig (Dict.empty.set "TestId" (.text "test-1")) true
        ⟨some "a", Dict.empty⟩).settings.availabilityZone = some "b" := by
  decide

end Sct.Cleanup
