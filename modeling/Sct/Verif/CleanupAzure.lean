import Sct.Cleanup.Azure
import Sct.Lib.Fallible

/-!
# What Azure cleanup removes

A machine is only terminated by itself when it carries the tags. A group is removed as a whole
when every machine the provisioner lists carries them; this says nothing of the machines it does
not list, and holds of a group with none. With a test id the group is the test's own. Without one
the cleanup goes over the groups of all tests, and is right when every group it empties has
machines that all carry the tags.
-/

open List
open Sct.Issued (check each each_map mem_calls_andThen mem_calls_each skipIf)

namespace Sct.Cleanup

variable (world : World) (tags : Tags)

def Vm.Carries (vm : Vm) : Prop := carries (Dict.empty.setAll vm.tags) tags = true

def BelongsToTest (name : String) : Prop :=
  ∃ id region az, tags.get "TestId" = some (.text id) ∧ name = resourceGroupName id region az

/-- A group holds machines, and all of them carry the tags. -/
def ResourceGroup.AllCarry (group : ResourceGroup) : Prop :=
  group.vms ≠ [] ∧ ∀ vm ∈ group.vms, vm.Carries tags

/-- The calls that were accepted terminate and remove only what the tags allow. -/
structure RemovesOnlyTagged (run : Issued Call) : Prop where
  machines : ∀ name vm, .deleteVm name vm ∈ run.calls → world.refuses (.deleteVm name vm) = false →
    vm.Carries tags
  groups : ∀ name, .deleteGroup name ∈ run.calls → world.refuses (.deleteGroup name) = false →
    ∀ group ∈ groupsNamed world name, BelongsToTest tags name ∨ group.AllCarry tags

/-! ## The groups gone over -/

/-- The test id of the provisioner of a listed group: the one given, or that of the name. -/
def ResourceGroup.provisionedId (testId : TagValue) (group : ResourceGroup) : String :=
  match testId with
  | .text id => if id = "" then group.testId else id
  | _ => group.testId

/-- The group that the provisioner built from a listed group works on. -/
def ResourceGroup.target (testId : TagValue) (group : ResourceGroup) : String :=
  resourceGroupName (group.provisionedId testId) group.location (convertAzToZone group.az)

/-- The groups in the given regions that a cleanup goes over: those with the test id in their
names, or, without one, those of any test. -/
def groupsOf (testId : TagValue) (regions : List String) (groups : List ResourceGroup) :
    List ResourceGroup :=
  (sctGroups regions groups).filter fun group =>
    match testId with
    | .null => group.testId.length == 36
    | .text id => if id = "" then group.testId.length == 36 else contains group.name id
    | .items ids => ids.isEmpty && group.testId.length == 36

def machinesOf (name : String) : List Vm := (groupsNamed world name).flatMap ResourceGroup.vms

/-- The provisioner of a listed group can be built. -/
structure Buildable (testId : TagValue) (group : ResourceGroup) : Prop where
  reachable : world.unreachable (group.target testId) = false
  located : ∀ other ∈ groupsNamed world (group.target testId), other.location = group.location
  convertible : ∀ vm ∈ machinesOf world (group.target testId), vm.breaks = false

def ListedCarry (name : String) : Prop :=
  ∀ vm ∈ machinesOf world name, vm.isCached = true → carries vm.instanceTags tags = true

/-- No call for the name is refused or unreported: the loop goes on after it. -/
structure GoesOn (name : String) : Prop where
  group : ListedCarry world tags name →
    world.refuses (.deleteGroup name) = false ∧ world.unreported (.deleteGroup name) = false
  machines : ¬ ListedCarry world tags name → ∀ vm ∈ machinesOf world name, vm.isCached = true →
    carries vm.instanceTags tags = true →
    world.refuses (.deleteVm name vm) = false ∧ world.unreported (.deleteVm name vm) = false

/-- A group of the name is removed as a whole: the cleanup comes to it before any refusal, and all
its listed machines carry the tags. -/
def IsEmptied (regions : List String) (name : String) : Prop :=
  ∃ groups, world.resourceGroups = some groups ∧
    (∀ group ∈ groupsOf (azureTestId tags) regions groups,
      Buildable world (azureTestId tags) group) ∧
      ∃ before group after, groupsOf (azureTestId tags) regions groups = before ++ group :: after ∧
        (∀ earlier ∈ before, GoesOn world tags (earlier.target (azureTestId tags))) ∧
          name = group.target (azureTestId tags) ∧ ListedCarry world tags name

/-- Every group that is emptied has machines, and all of them carry the tags. -/
def EmptiesOnlyTagged (regions : List String) : Prop :=
  ∀ name, IsEmptied world tags regions name → world.refuses (.deleteGroup name) = false →
    ∀ group ∈ groupsNamed world name, BelongsToTest tags name ∨ group.AllCarry tags

variable {world tags}

/-! ## Tags -/

variable {vm : Vm}

lemma Vm.carries_of_instanceTags (carried : carries vm.instanceTags tags = true) :
    vm.Carries tags := by
  unfold Vm.Carries
  unfold carries tagged at carried ⊢
  rw [all_eq_true] at carried ⊢
  intro entry listed
  have one := carried entry listed
  rw [Option.any_eq_true] at one ⊢
  obtain ⟨value, found, accepted⟩ := one
  refine ⟨value, ?_, accepted⟩
  rw [Vm.instanceTags, Dict.get_erase, Dict.get_erase, Dict.get_erase] at found
  split_ifs at found
  exact found

/-! ## One group -/

@[simp]
lemma raised_report (call : Call) : (report world call).raised = world.unreported call :=
  Bool.not_not _

section Group

variable {provisioner : AzureProvisioner} {dryRun : Bool}

lemma length_toClean_iff :
    provisioner.instances.length = (provisioner.toClean tags).length ↔
      ∀ vm ∈ provisioner.instances, carries vm.instanceTags tags = true := by
  rw [eq_comm]
  exact length_filter_eq_length_iff

/-- The calls for a group: it is removed as a whole, or machines that carry the tags are. -/
lemma mem_calls_cleanGroup {call : Call}
    (issued : call ∈ (cleanGroup world tags dryRun provisioner).calls) : dryRun = false ∧
      (call = .deleteGroup provisioner.groupName ∧
          provisioner.instances.length = (provisioner.toClean tags).length ∨
        ∃ vm ∈ provisioner.toClean tags, call = .deleteVm provisioner.groupName vm) := by
  unfold cleanGroup at issued
  cases dryRun with
  | true => simp [skipIf] at issued
  | false =>
    simp only [skipIf, Bool.false_eq_true, if_false] at issued
    split at issued
    · rename_i whole
      rw [mem_calls_andThen] at issued
      exact ⟨rfl, .inl ⟨by simpa [report] using issued, whole⟩⟩
    · rcases mem_calls_andThen.mp issued with terminated | ⟨-, reported⟩
      · obtain ⟨before, vm, after, split, -, same⟩ := mem_calls_each.mp terminated
        exact ⟨rfl, .inr ⟨vm, by simp [split], mem_singleton.mp same⟩⟩
      · obtain ⟨-, vm, -, -, -, none⟩ := mem_calls_each.mp reported
        simp [report] at none

variable {name : String}

lemma deleteGroup_mem_cleanGroup_iff :
    .deleteGroup name ∈ (cleanGroup world tags dryRun provisioner).calls ↔
      dryRun = false ∧ name = provisioner.groupName ∧
        ∀ vm ∈ provisioner.instances, carries vm.instanceTags tags = true := by
  rw [← length_toClean_iff]
  constructor
  · intro issued
    obtain ⟨real, ⟨same, whole⟩ | ⟨vm, -, same⟩⟩ := mem_calls_cleanGroup issued
    · exact ⟨real, Call.deleteGroup.inj same, whole⟩
    · cases same
  · rintro ⟨rfl, rfl, whole⟩
    simp [cleanGroup, skipIf, whole, mem_calls_andThen]

variable {testId : TagValue}

def provisionerOf (world : World) (testId : TagValue) (group : ResourceGroup) : AzureProvisioner :=
  ⟨group.provisionedId testId, group.location, convertAzToZone group.az,
    (machinesOf world (group.target testId)).filter Vm.isCached⟩

variable (group : ResourceGroup)

lemma listedCarry_iff :
    ListedCarry world tags (group.target testId) ↔
      ∀ vm ∈ (provisionerOf world testId group).instances, carries vm.instanceTags tags = true := by
  unfold ListedCarry provisionerOf
  simp only [mem_filter, and_imp]

lemma mem_toClean_provisionerOf (vm : Vm) :
    vm ∈ (provisionerOf world testId group).toClean tags ↔
      (vm ∈ machinesOf world (group.target testId) ∧ vm.isCached = true) ∧
        carries vm.instanceTags tags = true := by
  unfold AzureProvisioner.toClean provisionerOf
  rw [mem_filter, mem_filter]

lemma raised_cleanGroup_iff :
    (cleanGroup world tags false (provisionerOf world testId group)).raised = false ↔
      GoesOn world tags (group.target testId) := by
  have carry : ListedCarry world tags (group.target testId) ↔ _ :=
    (listedCarry_iff group).trans length_toClean_iff.symm
  have named : (provisionerOf world testId group).groupName = group.target testId := rfl
  unfold cleanGroup
  simp only [skipIf, Bool.false_eq_true, if_false, named]
  split
  · rename_i whole
    rw [Issued.raised_andThen, Bool.or_eq_false_iff, Issued.raised_attempt, raised_report]
    constructor
    · intro passed
      exact ⟨fun _ => passed, fun part => absurd (carry.mpr whole) part⟩
    · intro goes
      exact goes.group (carry.mpr whole)
  · rename_i part
    simp only [Issued.raised_andThen, Bool.or_eq_false_iff, Issued.raised_each_eq_false_iff,
      Issued.raised_attempt, raised_report, mem_toClean_provisionerOf]
    constructor
    · rintro ⟨accepted, reported⟩
      refine ⟨fun whole => absurd (carry.mp whole) part, ?_⟩
      intro _ vm listed cached carried
      exact ⟨accepted vm ⟨⟨listed, cached⟩, carried⟩, reported vm ⟨⟨listed, cached⟩, carried⟩⟩
    · intro goes
      have passed := goes.machines fun whole => part (carry.mp whole)
      constructor
      · rintro vm ⟨⟨listed, cached⟩, carried⟩
        exact (passed vm listed cached carried).1
      · rintro vm ⟨⟨listed, cached⟩, carried⟩
        exact (passed vm listed cached carried).2

end Group

/-! ## Discovery -/

section Discovery

variable {testId : TagValue}

lemma init_eq_some_iff (group : ResourceGroup) (provisioner : AzureProvisioner) :
    AzureProvisioner.init world (group.provisionedId testId) group.location group.az =
        some provisioner ↔
      Buildable world testId group ∧ provisioner = provisionerOf world testId group := by
  have made : AzureProvisioner.init world (group.provisionedId testId) group.location group.az =
      if world.unreachable (group.target testId) then none
      else if (groupsNamed world (group.target testId)).any fun other =>
          other.location != group.location then none
      else if (machinesOf world (group.target testId)).any Vm.breaks then none
      else some (provisionerOf world testId group) := rfl
  have conditions : Buildable world testId group ↔
      world.unreachable (group.target testId) = false ∧
      ((groupsNamed world (group.target testId)).any fun other =>
        other.location != group.location) = false ∧
      (machinesOf world (group.target testId)).any Vm.breaks = false := by
    simp only [any_eq_false, bne_iff_ne, not_not, Bool.not_eq_true]
    exact ⟨fun built => ⟨built.reachable, built.located, built.convertible⟩,
      fun ⟨reachable, located, convertible⟩ => ⟨reachable, located, convertible⟩⟩
  rw [made, conditions]
  split_ifs with unreachable elsewhere broken
  · simp [unreachable]
  · simp [elsewhere]
  · simp [broken]
  · simp [unreachable, elsewhere, broken, eq_comm]

lemma mapM_init_eq_some_iff (found : List ResourceGroup) (provisioners : List AzureProvisioner) :
    (found.mapM fun group => AzureProvisioner.init world (group.provisionedId testId)
        group.location group.az) = some provisioners ↔
      (∀ group ∈ found, Buildable world testId group) ∧
        provisioners = found.map (provisionerOf world testId) := by
  rw [Fallible.mapM_eq_some_iff]
  simp only [init_eq_some_iff]
  induction found generalizing provisioners with
  | nil => simp
  | cons group rest ih =>
    rw [forall₂_cons_left_iff, forall_mem_cons, map_cons]
    constructor
    · rintro ⟨first, others, ⟨buildable, rfl⟩, each, rfl⟩
      obtain ⟨allBuildable, rfl⟩ := (ih others).mp each
      exact ⟨⟨buildable, allBuildable⟩, rfl⟩
    · rintro ⟨⟨buildable, others⟩, rfl⟩
      exact ⟨_, _, ⟨buildable, rfl⟩, (ih _).mpr ⟨others, rfl⟩, rfl⟩

lemma discoverRegions_eq_some_iff (single : testId.isTruthy = true → ∃ id, testId = .text id)
    (regions : List String) (provisioners : List AzureProvisioner) :
    discoverRegions world testId regions = some provisioners ↔
      ∃ groups, world.resourceGroups = some groups ∧
        (∀ group ∈ groupsOf testId regions groups, Buildable world testId group) ∧
          provisioners = (groupsOf testId regions groups).map (provisionerOf world testId) := by
  unfold discoverRegions
  cases world.resourceGroups with
  | none => simp
  | some groups =>
    simp only [Option.some.injEq, exists_eq_left']
    rw [← mapM_init_eq_some_iff]
    cases testId with
    | null => rfl
    | items ids =>
      cases ids with
      | nil => rfl
      | cons id rest =>
        obtain ⟨one, same⟩ := single rfl
        exact absurd same (by simp)
    | text id =>
      by_cases unset : id = ""
      · subst unset
        rfl
      · simp only [TagValue.isTruthy, groupsOf, ResourceGroup.provisionedId, unset, bne_iff_ne, ne_eq,
          not_false_eq_true, if_true, if_false]

lemma TagValue.exists_items_of_not_single
    (several : ¬ (testId.isTruthy = true → ∃ id, testId = .text id)) :
    ∃ ids, ids ≠ [] ∧ testId = .items ids := by
  cases testId with
  | null => exact absurd (fun truthy => absurd truthy (by simp [TagValue.isTruthy])) several
  | text id => exact absurd (fun _ => ⟨id, rfl⟩) several
  | items ids =>
    refine ⟨ids, ?_, rfl⟩
    rintro rfl
    exact several fun truthy => absurd truthy (by simp [TagValue.isTruthy])

variable {ids : List String}

lemma groupsOf_items (more : ids ≠ []) (regions : List String) (groups : List ResourceGroup) :
    groupsOf (.items ids) regions groups = [] := by
  simp [groupsOf, more]

lemma provisioners_eq_nil_of_items (several : ids ≠ []) {regions : List String}
    {provisioners : List AzureProvisioner}
    (discovered : discoverRegions world (.items ids) regions = some provisioners) :
    provisioners = [] := by
  unfold discoverRegions at discovered
  cases listing : world.resourceGroups with
  | none => simp [listing] at discovered
  | some groups =>
    have truthy : (TagValue.items ids).isTruthy = true := by simpa [TagValue.isTruthy] using several
    simp only [listing, truthy, if_true] at discovered
    split at discovered
    · exact (Option.some.inj discovered).symm
    · exact absurd discovered (by simp)

end Discovery

/-! ## The whole cleanup -/

variable {regions : List String} {dryRun : Bool}

lemma mem_calls_cleanInstancesAzure {call : Call} :
    call ∈ (cleanInstancesAzure world tags regions dryRun).calls ↔
      tags.entries ≠ [] ∧ ∃ provisioners,
        discoverRegions world (azureTestId tags) regions = some provisioners ∧
          call ∈ (each (cleanGroup world tags dryRun) provisioners).calls := by
  unfold cleanInstancesAzure
  rw [mem_calls_andThen]
  have nonempty : (check (!tags.entries.isEmpty) : Issued Call).raised = false ↔
      tags.entries ≠ [] := by simp [check]
  rw [nonempty]
  cases discoverRegions world (azureTestId tags) regions with
  | none => simp
  | some provisioners => simp

variable {name : String}

lemma carries_of_deleteVm_mem
    (issued : .deleteVm name vm ∈ (cleanInstancesAzure world tags regions dryRun).calls) :
    carries vm.instanceTags tags = true := by
  obtain ⟨-, provisioners, -, called⟩ := mem_calls_cleanInstancesAzure.mp issued
  obtain ⟨-, provisioner, -, -, -, cleaned⟩ := mem_calls_each.mp called
  obtain ⟨-, ⟨same, -⟩ | ⟨other, listed, same⟩⟩ := mem_calls_cleanGroup cleaned
  · cases same
  · cases same
    exact (mem_filter.mp listed).2

lemma deleteGroup_mem_iff (nonempty : tags.entries ≠ []) :
    .deleteGroup name ∈ (cleanInstancesAzure world tags regions false).calls ↔
      IsEmptied world tags regions name := by
  rw [mem_calls_cleanInstancesAzure]
  unfold IsEmptied
  simp only [ne_eq, nonempty, not_false_eq_true, true_and]
  by_cases single : (azureTestId tags).isTruthy = true → ∃ id, azureTestId tags = .text id
  · simp only [discoverRegions_eq_some_iff single]
    constructor
    · rintro ⟨provisioners, ⟨groups, listing, buildable, rfl⟩, issued⟩
      rw [each_map, mem_calls_each] at issued
      obtain ⟨before, group, after, split, quiet, cleaned⟩ := issued
      obtain ⟨-, rfl, carry⟩ := deleteGroup_mem_cleanGroup_iff.mp cleaned
      refine ⟨groups, listing, buildable, before, group, after, split, ?_, rfl, ?_⟩
      · exact fun earlier listed => (raised_cleanGroup_iff earlier).mp (quiet earlier listed)
      · exact (listedCarry_iff group).mpr carry
    · rintro ⟨groups, listing, buildable, before, group, after, split, goesOn, rfl, carry⟩
      refine ⟨_, ⟨groups, listing, buildable, rfl⟩, ?_⟩
      rw [each_map, mem_calls_each]
      refine ⟨before, group, after, split, ?_, ?_⟩
      · exact fun earlier listed => (raised_cleanGroup_iff earlier).mpr (goesOn earlier listed)
      · exact deleteGroup_mem_cleanGroup_iff.mpr ⟨rfl, rfl, (listedCarry_iff group).mp carry⟩
  · obtain ⟨ids, more, several⟩ := TagValue.exists_items_of_not_single single
    rw [several]
    constructor
    · rintro ⟨provisioners, discovered, issued⟩
      rw [provisioners_eq_nil_of_items more discovered] at issued
      exact absurd issued (by simp [each])
    · rintro ⟨groups, -, -, before, group, after, split, -⟩
      rw [groupsOf_items more] at split
      exact absurd split (by simp)

lemma belongsToTest_of_isEmptied (given : (azureTestId tags).isTruthy = true)
    (emptied : IsEmptied world tags regions name) :
    BelongsToTest tags name := by
  obtain ⟨groups, -, -, before, group, after, split, -, rfl, -⟩ := emptied
  have tag : tags.get "TestId" = some (azureTestId tags) := by
    unfold azureTestId at given ⊢
    cases found : tags.get "TestId" with
    | none =>
      rw [found] at given
      exact absurd given (by decide)
    | some value => rfl
  cases same : azureTestId tags with
  | null => exact absurd given (by rw [same]; simp [TagValue.isTruthy])
  | items ids =>
    rw [same] at split given
    rw [groupsOf_items (by simpa [TagValue.isTruthy] using given)] at split
    exact absurd split (by simp)
  | text id =>
    rw [same] at tag given
    have set : id ≠ "" := by simpa [TagValue.isTruthy] using given
    refine ⟨id, group.location, convertAzToZone group.az, tag, ?_⟩
    simp only [ResourceGroup.target, ResourceGroup.provisionedId, set, if_false]

lemma entries_ne_nil_of_mem {key : String} (given : key ∈ tags) : tags.entries ≠ [] := by
  intro empty
  have listed : key ∈ tags.entries.map Prod.fst := given
  rw [empty] at listed
  exact absurd listed not_mem_nil

lemma deleteGroup_notMem_dryRun :
    .deleteGroup name ∉ (cleanInstancesAzure world tags regions true).calls := by
  intro issued
  obtain ⟨-, provisioners, -, called⟩ := mem_calls_cleanInstancesAzure.mp issued
  obtain ⟨-, provisioner, -, -, -, cleaned⟩ := mem_calls_each.mp called
  exact absurd (deleteGroup_mem_cleanGroup_iff.mp cleaned).1 (by simp)

/-- Azure cleanup with a test id or a user terminates and removes only what its tags allow,
exactly if it is a dry run, has a test id, or empties only groups with machines that all carry
the tags. -/
theorem removesOnlyTagged_iff (world : World) (tags : Tags) (regions : List String) (dryRun : Bool)
    (given : "TestId" ∈ tags ∨ "RunByUser" ∈ tags) :
    RemovesOnlyTagged world tags (cleanInstancesAzure world tags regions dryRun) ↔
      dryRun = true ∨ (azureTestId tags).isTruthy = true ∨ EmptiesOnlyTagged world tags regions := by
  have nonempty : tags.entries ≠ [] := given.elim entries_ne_nil_of_mem entries_ne_nil_of_mem
  have machines : ∀ name vm,
      .deleteVm name vm ∈ (cleanInstancesAzure world tags regions dryRun).calls →
      world.refuses (.deleteVm name vm) = false → vm.Carries tags :=
    fun name vm issued _ => Vm.carries_of_instanceTags (carries_of_deleteVm_mem issued)
  cases dryRun with
  | true =>
    simp only [true_or, iff_true]
    exact ⟨machines, fun name issued => absurd issued deleteGroup_notMem_dryRun⟩
  | false =>
    rw [or_iff_right (by simp)]
    constructor
    · intro safe
      right
      intro name emptied accepted
      exact safe.groups name ((deleteGroup_mem_iff nonempty).mpr emptied) accepted
    · intro allowed
      refine ⟨machines, fun name issued accepted group listed => ?_⟩
      have emptied := (deleteGroup_mem_iff nonempty).mp issued
      rcases allowed with truthy | empties
      · exact .inl (belongsToTest_of_isEmptied truthy emptied)
      · exact empties name emptied accepted group listed

def groupBeingCreated : ResourceGroup where
  name := "SCT-11111111-2222-3333-4444-555555555555-eastus"
  location := "eastus"
  vms := [⟨"db-node-1", [("RunByUser", "bob")], "Creating", .complete⟩]

def creatingWorld : World := { World.bare with resourceGroups := some [groupBeingCreated] }

/-- A cleanup of the resources of that test may remove its group. -/
theorem removesOnlyTagged_ownTest :
    RemovesOnlyTagged creatingWorld
      (Dict.empty.set "TestId" (.text "11111111-2222-3333-4444-555555555555"))
      (cleanInstancesAzure creatingWorld
        (Dict.empty.set "TestId" (.text "11111111-2222-3333-4444-555555555555")) [] false) :=
  (removesOnlyTagged_iff _ _ [] false (.inl (by decide))).mpr (.inr (.inl (by decide)))

/-- A cleanup of the resources of one user removes the group another user's test is creating. -/
theorem group_of_other_user_removed :
    (cleanInstancesAzure creatingWorld (Dict.empty.set "RunByUser" (.text "alice")) [] false).calls =
      [.deleteGroup groupBeingCreated.name] ∧
    ¬ RemovesOnlyTagged creatingWorld (Dict.empty.set "RunByUser" (.text "alice"))
      (cleanInstancesAzure creatingWorld (Dict.empty.set "RunByUser" (.text "alice")) [] false) := by
  have issued :
      (cleanInstancesAzure creatingWorld (Dict.empty.set "RunByUser" (.text "alice")) [] false).calls
        = [.deleteGroup groupBeingCreated.name] := by decide
  refine ⟨issued, fun safe => ?_⟩
  have listed : groupBeingCreated ∈ groupsNamed creatingWorld groupBeingCreated.name := by
    decide
  have removed : .deleteGroup groupBeingCreated.name ∈ (cleanInstancesAzure creatingWorld
      (Dict.empty.set "RunByUser" (.text "alice")) [] false).calls := by
    rw [issued]
    exact mem_singleton_self _
  rcases safe.groups _ removed rfl _ listed with ⟨id, region, az, tag, -⟩ | ⟨-, carry⟩
  · exact absurd tag (by simp [Dict.get_set])
  · have carried := carry _ (mem_singleton_self _)
    unfold Vm.Carries at carried
    exact absurd carried (by decide)

end Sct.Cleanup
