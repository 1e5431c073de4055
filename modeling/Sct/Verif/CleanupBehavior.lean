import Sct.Verif.CleanupAzure
import Sct.Verif.CleanupDryRun

/-!
# What post behaviours keep

The node types whose behaviours schedule a cleanup become the tag `NodeType` of the cleanup. The
cleaners that filter by it, or ask whether a type is in it, spare what is to be kept. Some do not
look at it for everything they take away: dedicated hosts are released without it, containers are
not filtered by an empty list, a group of Azure goes with the machines that are not listed, an
instance of GCE with the given name goes whatever its type, and a cluster takes its nodes with it.
-/

open List
open Sct.Issued (All all_attempt all_each all_nothing all_raise all_skipIf attempt check each
  mem_calls_andThen mem_calls_each skipIf)

namespace Sct.Cleanup

def behaviorKey (nodeType : String) : Option String :=
  if nodeType = "scylla-db" ∨ nodeType = "cs-db" ∨ nodeType = "oracle-db" then some "db_nodes"
  else if nodeType = "monitor" then some "monitor_nodes"
  else if nodeType = "loader" then some "loader_nodes"
  else if nodeType = "vector-store" then some "vector_store_nodes"
  else if nodeType = "k8s" then some "k8s_cluster"
  else if nodeType = "emr" then some "emr_cluster"
  else none

section Kept

variable (config : Config) (criticalEvents : Bool)

def IsKept (key : String) : Prop :=
  config.postBehavior key = some "keep" ∨
    config.postBehavior key = some "keep-on-failure" ∧ criticalEvents = true

def IsKeptType (nodeType : Option String) : Prop :=
  ∃ type key, nodeType = some type ∧ behaviorKey type = some key ∧ IsKept config criticalEvents key

def Vm.nodeType (vm : Vm) : Option String := (Dict.empty.setAll vm.tags).get "NodeType"

/-- Nodes that are to be kept go with a cluster. -/
def TakesKept (world : World) (cluster : Resource) : Prop :=
  ∃ nodeType ∈ world.nodeTypesOf cluster, IsKeptType config criticalEvents (some nodeType)

/-- A call on a resource of a kind destroys an instance, a cluster or a dedicated host that is to
be kept. -/
def DestroysKeptResource (world : World) (action : Action) (resource : Resource) : Kind → Prop
  | .awsInstance | .gceInstance | .ociInstance | .container =>
    action ≠ .stop ∧ IsKeptType config criticalEvents resource.nodeType
  | .eksCluster | .gkeCluster => IsKept config criticalEvents "k8s_cluster" ∨
      TakesKept config criticalEvents world resource
  | .emrCluster => IsKept config criticalEvents "emr_cluster"
  | .cloudCluster => IsKept config criticalEvents "db_nodes" ∨
      TakesKept config criticalEvents world resource
  | .dedicatedHost => IsKept config criticalEvents "dedicated_host"
  | _ => False

/-- A call destroys an instance, a cluster or a dedicated host that is to be kept. The instances of
a fleet have the type of its request. -/
def DestroysKept (world : World) : Call → Prop
  | .on action kind resource =>
    DestroysKeptResource config criticalEvents world action resource kind
  | .cancelFleets _ requests =>
    ∃ request ∈ requests, IsKeptType config criticalEvents request.nodeType
  | .deleteGroup name => ∃ vm ∈ machinesOf world name, IsKeptType config criticalEvents vm.nodeType
  | .deleteVm _ vm => IsKeptType config criticalEvents vm.nodeType
  | .cleanUpHost nodeType _ => IsKeptType config criticalEvents (some nodeType)
  | _ => False

/-- A call that is refused or spares what is to be kept. -/
def Spares (world : World) (call : Call) : Prop :=
  world.refuses call = false → ¬ DestroysKept config criticalEvents world call

end Kept

variable {config : Config} {criticalEvents : Bool}

/-! ## Scheduled types -/

lemma not_isKept_of_isScheduled {key : String}
    (scheduled : isScheduled criticalEvents (config.postBehavior key) = true) :
    ¬ IsKept config criticalEvents key := by
  rintro (keep | ⟨keepOnFailure, critical⟩)
  · rw [keep] at scheduled
    cases criticalEvents <;> exact absurd scheduled (by decide)
  · rw [keepOnFailure, critical] at scheduled
    exact absurd scheduled (by decide)

lemma behaviorKey_of_mem_dbNodeTypes {dbType nodeType : String}
    (listed : nodeType ∈ dbNodeTypes dbType) : behaviorKey nodeType = some "db_nodes" := by
  have known : nodeType = "scylla-db" ∨ nodeType = "cs-db" ∨ nodeType = "oracle-db" := by
    unfold dbNodeTypes at listed
    split_ifs at listed <;> simp only [mem_cons, not_mem_nil, or_false] at listed <;> tauto
  exact if_pos known

variable {nodeType : String}

lemma behaviorKey_of_mem_actions {entry : BehaviorAction}
    (listed : entry ∈ getPostBehaviorActions config) (among : nodeType ∈ entry.nodeTypes) :
    behaviorKey nodeType = some entry.key ∧ entry.action = config.postBehavior entry.key := by
  simp only [getPostBehaviorActions, mem_cons, not_mem_nil, or_false] at listed
  rcases listed with rfl | rfl | rfl | rfl | rfl | rfl
  · exact ⟨behaviorKey_of_mem_dbNodeTypes among, rfl⟩
  all_goals
    rw [mem_singleton.mp among]
    exact ⟨by dsimp only; decide, rfl⟩

lemma not_isKeptType_of_mem (listed : nodeType ∈ nodeTypesToCleanup config criticalEvents) :
    ¬ IsKeptType config criticalEvents (some nodeType) := by
  rintro ⟨type, key, same, known, kept⟩
  obtain ⟨entry, among, types⟩ := mem_flatMap.mp listed
  split at types
  · rename_i scheduled
    obtain ⟨found, action⟩ := behaviorKey_of_mem_actions among types
    rw [Option.some.inj same, known] at found
    rw [action, ← Option.some.inj found] at scheduled
    exact not_isKept_of_isScheduled scheduled kept
  · exact absurd types not_mem_nil

lemma not_isKept_of_mem {nodeType key : String} (known : behaviorKey nodeType = some key)
    (listed : nodeType ∈ nodeTypesToCleanup config criticalEvents) :
    ¬ IsKept config criticalEvents key := by
  intro kept
  exact not_isKeptType_of_mem listed ⟨nodeType, key, rfl, known, kept⟩

/-! ## Cleaners of other resources -/

section Other

variable {world : World} {tags : Tags} {regions : List String} {dryRun : Bool}

lemma spares_of_isOther (_ : dryRun = false) (call : Call) (other : call.isOther = true) :
    Spares config criticalEvents world call := by
  intro _
  cases call with
  | on action kind resource =>
    cases kind with
    | eksCluster | gkeCluster | emrCluster | awsInstance | dedicatedHost | gceInstance | container
      | cloudCluster | ociInstance => cases other
    | _ => exact id
  | cancelFleets | deleteGroup | deleteVm | cleanUpHost => cases other
  | _ => exact id

lemma spares_cleanAwsKmsAlias :
    All (Spares config criticalEvents world) (cleanAwsKmsAlias world tags regions) := by
  apply all_inRegions
  intro scanned
  split
  · exact all_raise
  · exact all_nothing
  · split
    · apply all_each
      intro region _
      exact (all_attempt fun _ => id).guarded
    · exact all_nothing

lemma spares_cancelReservations (region : String) (ids : List String) :
    All (Spares config criticalEvents world) (cancelReservations world region ids) := by
  apply all_each
  intro id _
  exact (all_attempt fun _ destroyed => destroyed).guarded

lemma spares_cancelAllRegions (testId : String) :
    All (Spares config criticalEvents world) (cancelAllRegions world testId) := by
  unfold cancelAllRegions
  split
  · exact all_raise
  · split
    · exact all_nothing
    · apply all_each
      intro region _
      exact spares_cancelReservations region _

lemma spares_cleanCapacityReservations (settings : Settings) :
    All (Spares config criticalEvents world)
      (cleanCapacityReservations world config dryRun settings).1 := by
  apply All.andThen
  · unfold cancelConfigured
    split
    · exact spares_cancelAllRegions config.testId
    · split
      · exact all_raise
      · unfold cancelReserved
        split
        · exact all_nothing
        · exact spares_cancelReservations _ _
  · apply all_skipIf
    intro _
    exact spares_cancelAllRegions config.testId

lemma spares_cleanupClusterVpcPeering (cluster : Resource) :
    All (Spares config criticalEvents world)
      (cleanupClusterVpcPeering world config cluster) := by
  unfold cleanupClusterVpcPeering
  split
  · exact all_nothing
  · apply all_each
    intro peering _
    apply (Issued.all_check _).andThen
    refine All.andThen (All.guarded ?_) (all_attempt fun _ => id)
    split
    · apply all_each
      intro route _
      exact (all_attempt fun _ => id).guarded
    · split
      · apply all_each
        intro other _
        exact all_attempt fun _ => id
      · exact all_nothing

end Other

/-! ## Cleaners that ask for the types -/

section Tags

variable {world : World} {tags : Tags} {regions : List String} {dryRun : Bool}
  (typed : tags.get "NodeType" = some (.items (nodeTypesToCleanup config criticalEvents)))
include typed

lemma not_isKeptType_of_carries {found : Dict String String}
    (carried : carries found tags = true) :
    ¬ IsKeptType config criticalEvents (found.get "NodeType") := by
  have entry := (Dict.mem_entries_iff tags _ _).mpr typed
  have one := all_eq_true.mp carried _ entry
  obtain ⟨nodeType, has, admitted⟩ := (Option.any_eq_true _ _).mp one
  rw [has]
  exact not_isKeptType_of_mem (contains_iff_mem.mp admitted)

lemma spares_cleanSpotFleetRequestsAws :
    All (Spares config criticalEvents world)
      (cleanSpotFleetRequestsAws world tags regions dryRun) := by
  apply all_cleanSpotFleetRequestsAws
  rintro - region requests carried - ⟨request, listed, kept⟩
  exact not_isKeptType_of_carries typed (carried request listed) kept

lemma spares_cleanInstancesAws :
    All (Spares config criticalEvents world)
      (cleanInstancesAws world tags regions dryRun) := by
  apply all_cleanInstancesAws
  rintro - resource carried - ⟨-, kept⟩
  exact not_isKeptType_of_carries typed carried kept

lemma spares_cleanEmrClusters :
    All (Spares config criticalEvents world)
      (cleanEmrClusters world tags regions dryRun) := by
  apply all_cleanEmrClusters
  intro _ cluster texts
  have entry := (Dict.mem_entries_iff tags _ _).mpr typed
  have one := all_eq_true.mp texts _ entry
  obtain ⟨nodeType, -, equal⟩ := (Option.any_eq_true _ _).mp one
  exact absurd equal (by simp [TagValue.equals])

lemma spares_cleanInstancesOci :
    All (Spares config criticalEvents world) (cleanInstancesOci world tags dryRun) := by
  apply all_cleanInstancesOci
  rintro - action resource (rfl | carried) - ⟨destroying, kept⟩
  · exact destroying rfl
  · exact not_isKeptType_of_carries typed carried kept

end Tags

/-! ## Cleaners that do not -/

section Unasked

variable (world : World) (config : Config) (criticalEvents : Bool) (params : Tags)

def scannedRegions (regions : List String) : Option (List String) :=
  if regions.isEmpty then world.allAwsRegions else some regions

/-- Hosts to be kept are not released: none has the other tags, or the first one found is not let
go, which ends the loop. -/
def HostsSpared : Prop :=
  IsKept config criticalEvents "dedicated_host" →
    ∀ scanned, scannedRegions world (awsRegions config) = some scanned →
      ∀ host, (listIn world .dedicatedHost (hasTags params.withoutNodeType) scanned).head? =
        some host → world.refuses (.on .release .dedicatedHost host) = true

def NamedInstancesSpared : Prop :=
  ∀ instances, world.listed .gceInstance "" = some instances →
    ∀ resource ∈ instances, resource.state = "RUNNING" →
      params.get "Name" = some (.text resource.name) →
      world.refuses (.on .delete .gceInstance resource) = false →
      ¬ IsKeptType config criticalEvents resource.nodeType

/-- The tags of the cleanup: the given ones, and the types whose behaviours schedule it. -/
def scheduledTags : Tags :=
  params.set "NodeType" (.items (nodeTypesToCleanup config criticalEvents))

/-- No cluster of Kubernetes among these takes nodes to be kept with it. -/
def ClustersSpared (kind : Kind) (clusters : List Resource) : Prop :=
  "k8s" ∈ nodeTypesToCleanup config criticalEvents → ∀ cluster ∈ clusters,
    nameOrTags params.withoutNodeType cluster = true →
    world.refuses (.on .delete kind cluster) = false → ¬ TakesKept config criticalEvents world cluster

/-- No cluster of the test in Scylla Cloud takes nodes to be kept with it, once its peerings are
cleaned up. -/
def CloudClustersSpared : Prop :=
  "scylla-db" ∈ nodeTypesToCleanup config criticalEvents →
    ∀ clusters, world.listed .cloudCluster "" = some clusters → ∀ cluster ∈ clusters,
      namedAfterTest (scheduledTags config criticalEvents params) cluster = true →
      (cleanupClusterVpcPeering world config cluster).raised = false →
      world.refuses (.on .delete .cloudCluster cluster) = false →
      ¬ TakesKept config criticalEvents world cluster

/-- No machine to be kept is in a group that is removed as a whole. -/
def GroupsSpared : Prop :=
  ∀ name, IsEmptied world (scheduledTags config criticalEvents params) config.azureRegionName name →
    world.refuses (.deleteGroup name) = false →
      ∀ vm ∈ machinesOf world name, ¬ IsKeptType config criticalEvents vm.nodeType

/-- When no behaviour schedules a cleanup, no container of the test is to be kept. -/
def ContainersSpared : Prop :=
  nodeTypesToCleanup config criticalEvents = [] → ∀ docker, world.docker = some docker →
    ∀ container ∈ docker.containers,
      hasLabels (scheduledTags config criticalEvents params) container = true →
      some container.id ≠ docker.currentContainerId → container.state ≠ "removing" →
      docker.reloads container = true →
      world.refuses (.on .delete .container container) = false →
      ¬ IsKeptType config criticalEvents container.nodeType

/-- Cleaning up Scylla Cloud comes to the instances of GCE: database nodes are scheduled, and the
account has a cluster of the test. -/
def ReachesGceSide : Prop :=
  config.xcloudProvider = "gce" ∧ "scylla-db" ∈ nodeTypesToCleanup config criticalEvents ∧
    ∃ clusters, world.listed .cloudCluster "" = some clusters ∧
      ∃ cluster ∈ clusters,
        namedAfterTest (scheduledTags config criticalEvents params) cluster = true

variable {world config criticalEvents params}

lemma get_nodeType_scheduledTags :
    (scheduledTags config criticalEvents params).get "NodeType" =
      some (.items (nodeTypesToCleanup config criticalEvents)) := Dict.get_set_self _ _ _

lemma withoutNodeType_scheduledTags :
    (scheduledTags config criticalEvents params).withoutNodeType = params.withoutNodeType :=
  Dict.erase_set _ _ _

lemma entries_scheduledTags_ne_nil :
    (scheduledTags config criticalEvents params).entries ≠ [] :=
  entries_ne_nil_of_mem ((Dict.mem_iff _ _).mpr ⟨_, get_nodeType_scheduledTags⟩)

lemma raised_assertTags_scheduledTags :
    (assertTags (scheduledTags config criticalEvents params)).raised = false := by
  simp [assertTags, check, entries_scheduledTags_ne_nil]

variable {permits : Call → Prop} {tags : Tags}

lemma all_andThen_iff {first second : Issued Call} (quiet : first.raised = false) :
    All permits (first.andThen second) ↔ All permits first ∧ All permits second := by
  constructor
  · intro all
    refine ⟨⟨fun call issued => ?_⟩, ⟨fun call issued => ?_⟩⟩
    · exact all.permits_of_mem call (mem_calls_andThen.mpr (.inl issued))
    · exact all.permits_of_mem call (mem_calls_andThen.mpr (.inr ⟨quiet, issued⟩))
  · exact fun both => both.1.andThen both.2

lemma all_assertTags_andThen_iff {run : Issued Call} (passes : (assertTags tags).raised = false) :
    All permits ((assertTags tags).andThen run) ↔ All permits run := by
  rw [all_andThen_iff passes, and_iff_right (all_assertTags tags)]

lemma all_unlessTypeMissing_iff {nodeType : String} {run : Issued Call} :
    All permits (unlessTypeMissing (scheduledTags config criticalEvents params) nodeType run) ↔
      (nodeType ∈ nodeTypesToCleanup config criticalEvents → All permits run) := by
  unfold unlessTypeMissing
  rw [get_nodeType_scheduledTags]
  by_cases scheduled : nodeType ∈ nodeTypesToCleanup config criticalEvents
  · simp [TagValue.holds, scheduled]
  · simp [TagValue.holds, scheduled, all_nothing]

variable {regions : List String}

lemma all_inRegions_iff {run : List String → Issued Call} :
    All permits (inRegions world regions run) ↔
      ∀ scanned, scannedRegions world regions = some scanned → All permits (run scanned) := by
  unfold inRegions scannedRegions
  split
  · split
    · rename_i failed
      simp [failed, all_raise]
    · rename_i all listed
      simp [listed]
  · simp

lemma all_refused_each_attempt_iff {α : Type} (refuses : Call → Bool) (make : α → Call)
    (items : List α) :
    All (fun call => refuses call = true)
        (each (fun item => attempt refuses (make item)) items) ↔
      ∀ item, items.head? = some item → refuses (make item) = true := by
  cases items with
  | nil => simp [each, all_nothing]
  | cons first rest =>
    simp only [head?_cons, Option.some.injEq, forall_eq']
    constructor
    · intro all
      refine all.permits_of_mem _ (mem_calls_each.mpr ⟨[], first, rest, rfl, ?_, ?_⟩)
      · exact fun _ none => absurd none not_mem_nil
      · exact mem_singleton_self _
    · intro refused
      constructor
      intro call issued
      obtain ⟨before, item, after, split, quiet, same⟩ := mem_calls_each.mp issued
      cases before with
      | nil =>
        obtain ⟨rfl, -⟩ := List.cons.inj split
        rw [mem_singleton.mp same]
        exact refused
      | cons head front =>
        obtain ⟨rfl, -⟩ := List.cons.inj split
        have accepted : refuses (make first) = false := quiet first mem_cons_self
        exact absurd (refused.symm.trans accepted) (by simp)

lemma spares_releaseByTags_iff
    (given : params.withoutNodeType.entries ≠ []) :
    All (Spares config criticalEvents world)
        (releaseByTags world (scheduledTags config criticalEvents params) (awsRegions config) false) ↔
      HostsSpared world config criticalEvents params := by
  have passes : (assertTags params.withoutNodeType).raised = false := by
    simp [assertTags, check, given]
  unfold releaseByTags HostsSpared
  rw [withoutNodeType_scheduledTags, all_assertTags_andThen_iff passes, all_inRegions_iff]
  by_cases kept : IsKept config criticalEvents "dedicated_host"
  · simp only [kept, true_implies]
    refine forall₂_congr fun scanned _ => ?_
    rw [← all_refused_each_attempt_iff world.refuses (fun host => .on .release .dedicatedHost host)]
    -- a host to be kept is spared exactly when its call is refused
    have only : ∀ call ∈ (each
        (fun host => attempt world.refuses (.on .release .dedicatedHost host))
        (listIn world .dedicatedHost (hasTags params.withoutNodeType) scanned)).calls,
        Spares config criticalEvents world call ↔ world.refuses call = true := by
      intro call issued
      obtain ⟨before, host, after, -, -, same⟩ := mem_calls_each.mp issued
      rw [mem_singleton.mp same]
      constructor
      · intro spared
        by_contra accepted
        exact spared (Bool.not_eq_true _ ▸ accepted) kept
      · intro refused accepted
        exact absurd (refused.symm.trans accepted) (by simp)
    exact ⟨fun all => ⟨fun call issued => (only call issued).mp (all.permits_of_mem call issued)⟩,
      fun all => ⟨fun call issued => (only call issued).mpr (all.permits_of_mem call issued)⟩⟩
  · simp only [kept, false_implies, iff_true]
    intro scanned _
    apply all_each
    intro host _
    exact all_attempt fun _ => kept

lemma spares_clusters_iff {kind : Kind} (clusters : List Resource)
    (destroys : ∀ cluster, DestroysKept config criticalEvents world (.on .delete kind cluster) ↔
      IsKept config criticalEvents "k8s_cluster" ∨ TakesKept config criticalEvents world cluster) :
    ("k8s" ∈ nodeTypesToCleanup config criticalEvents → All (Spares config criticalEvents world)
        (each (fun cluster => skipIf false (call world .delete kind cluster).guarded)
          (clusters.filter
            (nameOrTags (scheduledTags config criticalEvents params).withoutNodeType)))) ↔
      ClustersSpared world config criticalEvents params kind clusters := by
  rw [withoutNodeType_scheduledTags]
  refine forall_congr' fun scheduled => ?_
  have free : ¬ IsKept config criticalEvents "k8s_cluster" :=
    not_isKept_of_mem (by decide) scheduled
  constructor
  · intro all cluster listed asked accepted taken
    have issued : .on .delete kind cluster ∈ (each (fun cluster => skipIf false
        (call world .delete kind cluster).guarded)
        (clusters.filter (nameOrTags params.withoutNodeType))).calls := by
      rw [Issued.mem_calls_each_of_quiet fun _ _ => rfl]
      exact ⟨cluster, mem_filter.mpr ⟨listed, asked⟩, mem_singleton_self _⟩
    exact all.permits_of_mem _ issued accepted ((destroys cluster).mpr (.inr taken))
  · intro spared
    apply all_each
    intro cluster found
    obtain ⟨listed, asked⟩ := mem_filter.mp found
    refine (all_attempt fun accepted destroyed => ?_).guarded
    exact ((destroys cluster).mp destroyed).elim free (spared cluster listed asked accepted)

lemma spares_cleanClustersEks_iff :
    All (Spares config criticalEvents world)
        (cleanClustersEks world (scheduledTags config criticalEvents params) regions false) ↔
      ∀ scanned, scannedRegions world regions = some scanned →
        ClustersSpared world config criticalEvents params .eksCluster
          (listClustersEks world scanned) := by
  unfold cleanClustersEks
  simp only [all_unlessTypeMissing_iff, all_assertTags_andThen_iff raised_assertTags_scheduledTags,
    all_inRegions_iff]
  constructor
  · intro all scanned found
    apply (spares_clusters_iff _ fun _ => Iff.rfl).mp
    exact fun scheduled => all scheduled scanned found
  · intro all scheduled scanned found
    exact (spares_clusters_iff _ fun _ => Iff.rfl).mpr (all scanned found) scheduled

lemma spares_cleanClustersGke_iff :
    All (Spares config criticalEvents world)
        (cleanClustersGke world (scheduledTags config criticalEvents params) false) ↔
      ClustersSpared world config criticalEvents params .gkeCluster
        ((world.listed .gkeCluster "").getD []) := by
  unfold cleanClustersGke
  simp only [all_unlessTypeMissing_iff, all_assertTags_andThen_iff raised_assertTags_scheduledTags]
  exact spares_clusters_iff _ fun _ => Iff.rfl

lemma spares_cleanInstancesGce_iff :
    All (Spares config criticalEvents world)
        (cleanInstancesGce world (scheduledTags config criticalEvents params) false) ↔
      NamedInstancesSpared world config criticalEvents params := by
  have name : (scheduledTags config criticalEvents params).get "Name" = params.get "Name" :=
    Dict.get_set_of_ne _ _ (by decide)
  unfold cleanInstancesGce NamedInstancesSpared
  rw [all_assertTags_andThen_iff raised_assertTags_scheduledTags]
  cases world.listed .gceInstance "" with
  | none => simp [all_raise]
  | some instances =>
    simp only [Option.some.injEq, forall_eq', Issued.all_parallel_iff]
    constructor
    · intro all resource listed running named accepted kept
      have found : resource ∈ instances.filter fun resource =>
          nameOrTags (scheduledTags config criticalEvents params) resource &&
            resource.state == "RUNNING" := by
        refine mem_filter.mpr ⟨listed, ?_⟩
        simp [nameOrTags, name, named, TagValue.equals, running]
      have spared := (all resource found).permits_of_mem (.on .delete .gceInstance resource)
        (mem_calls_andThen.mpr (.inl (mem_singleton_self _)))
      exact spared accepted ⟨by decide, kept⟩
    · intro named resource found
      obtain ⟨listed, filtered⟩ := mem_filter.mp found
      rw [Bool.and_eq_true, beq_iff_eq] at filtered
      apply all_reportedCall
      rintro accepted ⟨-, kept⟩
      rcases Bool.or_eq_true_iff.mp filtered.1 with byName | byTags
      · rw [name, Option.any_eq_true] at byName
        obtain ⟨value, given, equal⟩ := byName
        refine named resource listed filtered.2 ?_ accepted kept
        cases value with
        | null => exact absurd equal (by simp [TagValue.equals])
        | items values => exact absurd equal (by simp [TagValue.equals])
        | text value =>
          have same : resource.name = value := by simpa [TagValue.equals] using equal
          rw [given, same]
      · exact not_isKeptType_of_carries get_nodeType_scheduledTags byTags kept

lemma call_of_mem_cleanInstancesAzure {dryRun : Bool} {call : Call}
    (issued : call ∈ (cleanInstancesAzure world tags regions dryRun).calls) :
    (∃ name, call = .deleteGroup name) ∨ ∃ name vm, call = .deleteVm name vm := by
  obtain ⟨-, provisioners, -, called⟩ := mem_calls_cleanInstancesAzure.mp issued
  obtain ⟨-, provisioner, -, -, -, cleaned⟩ := mem_calls_each.mp called
  obtain ⟨-, ⟨same, -⟩ | ⟨vm, -, same⟩⟩ := mem_calls_cleanGroup cleaned
  · exact .inl ⟨_, same⟩
  · exact .inr ⟨_, vm, same⟩

lemma spares_cleanInstancesAzure_iff :
    All (Spares config criticalEvents world)
        (cleanInstancesAzure world (scheduledTags config criticalEvents params)
          config.azureRegionName false) ↔
      GroupsSpared world config criticalEvents params := by
  constructor
  · intro all name emptied accepted vm held kept
    have issued := (deleteGroup_mem_iff entries_scheduledTags_ne_nil).mpr emptied
    exact all.permits_of_mem _ issued accepted ⟨vm, held, kept⟩
  · intro spared
    constructor
    intro call issued accepted destroyed
    rcases call_of_mem_cleanInstancesAzure issued with ⟨name, rfl⟩ | ⟨name, vm, rfl⟩
    · obtain ⟨vm, held, kept⟩ := destroyed
      have emptied := (deleteGroup_mem_iff entries_scheduledTags_ne_nil).mp issued
      exact spared name emptied accepted vm held kept
    · have carried := Vm.carries_of_instanceTags (carries_of_deleteVm_mem issued)
      exact not_isKeptType_of_carries get_nodeType_scheduledTags carried destroyed

lemma mem_listResourcesDocker {docker : Docker} {containers images : List Resource}
    (listed : listResourcesDocker docker (scheduledTags config criticalEvents params) =
      some (containers, images)) (container : Resource) :
    container ∈ containers ↔ (container ∈ docker.containers ∧
      hasLabels (scheduledTags config criticalEvents params) container = true) ∧
      (nodeTypesToCleanup config criticalEvents ≠ [] →
        typeGiven (.items (nodeTypesToCleanup config criticalEvents)) container = true) ∧
      some container.id ≠ docker.currentContainerId ∧ container.state ≠ "removing" := by
  unfold listResourcesDocker at listed
  rw [get_nodeType_scheduledTags] at listed
  by_cases none : nodeTypesToCleanup config criticalEvents = []
  · simp only [none, Option.filter, TagValue.isTruthy, isEmpty_nil, Bool.not_true,
      Bool.false_eq_true, if_false, Option.some.injEq, Prod.mk.injEq] at listed
    rw [← listed.1, mem_filter, mem_filter, Bool.and_eq_true, bne_iff_ne, bne_iff_ne]
    simp only [none, ne_eq, not_true_eq_false, false_implies, true_and]
  · have truthy : (TagValue.items (nodeTypesToCleanup config criticalEvents)).isTruthy = true := by
      simpa [TagValue.isTruthy] using none
    simp only [Option.filter, truthy, if_true] at listed
    split at listed
    · simp only [Option.some.injEq, Prod.mk.injEq] at listed
      rw [← listed.1, mem_filter, mem_filter, mem_filter, Bool.and_eq_true,
        bne_iff_ne, bne_iff_ne]
      simp only [none, ne_eq, not_false_eq_true, true_implies, and_assoc]
    · exact absurd listed (by simp)

lemma spares_cleanResourcesDocker_iff :
    All (Spares config criticalEvents world)
        (cleanResourcesDocker world (scheduledTags config criticalEvents params) false) ↔
      ContainersSpared world config criticalEvents params := by
  unfold cleanResourcesDocker ContainersSpared
  rw [all_assertTags_andThen_iff raised_assertTags_scheduledTags]
  cases world.docker with
  | none => simp [all_raise]
  | some docker =>
    simp only [Option.some.injEq, forall_eq']
    constructor
    · intro all none container listed labelled other present reloads accepted kept
      obtain ⟨containers, images, found⟩ : ∃ containers images, listResourcesDocker docker
          (scheduledTags config criticalEvents params) = some (containers, images) := by
        unfold listResourcesDocker
        rw [get_nodeType_scheduledTags, none]
        exact ⟨_, _, rfl⟩
      rw [found] at all
      have among := (mem_listResourcesDocker found container).mpr
        ⟨⟨listed, labelled⟩, fun some => absurd none some, other, present⟩
      refine (all.permits_of_mem (.on .delete .container container) ?_) accepted ⟨by decide, kept⟩
      rw [mem_calls_andThen]
      left
      rw [Issued.mem_calls_each_of_quiet fun _ _ => rfl]
      refine ⟨container, among, mem_calls_andThen.mpr (.inr ⟨?_, ?_⟩)⟩
      · simp [check, reloads]
      · exact mem_singleton_self _
    · intro spared
      split
      · exact all_raise
      · rename_i containers images found
        apply All.andThen
        · constructor
          intro call issued accepted destroyed
          rw [Issued.mem_calls_each_of_quiet fun _ _ => rfl] at issued
          obtain ⟨container, among, called⟩ := issued
          rw [Issued.calls_guarded, mem_calls_andThen] at called
          rcases called with none | ⟨reloads, same⟩
          · exact absurd none (by simp)
          · obtain rfl := mem_singleton.mp same
            obtain ⟨⟨listed, labelled⟩, typed, other, present⟩ :=
              (mem_listResourcesDocker found container).mp among
            by_cases none : nodeTypesToCleanup config criticalEvents = []
            · exact spared none container listed labelled other present
                (by simpa [check] using reloads) accepted destroyed.2
            · obtain ⟨nodeType, has, given⟩ := (Option.any_eq_true _ _).mp (typed none)
              have scheduled : nodeType ∈ nodeTypesToCleanup config criticalEvents := by
                simpa [TagValue.holds] using given
              have kept := destroyed.2
              rw [has] at kept
              exact not_isKeptType_of_mem scheduled kept
        · apply all_each
          intro image _
          apply all_skipIf
          intro _
          exact (all_attempt fun _ => id).guarded

lemma spares_cleanProviderSide_iff :
    All (Spares config criticalEvents world)
        (cleanProviderSide world config (scheduledTags config criticalEvents params) false) ↔
      (config.xcloudProvider = "gce" → NamedInstancesSpared world config criticalEvents params) := by
  unfold cleanProviderSide
  split
  · rename_i aws
    constructor
    · intro _ gce
      rw [aws] at gce
      exact absurd gce (by decide)
    · intro _
      exact (spares_cleanInstancesAws get_nodeType_scheduledTags).andThen <|
        (all_cleanElasticIpsAws spares_of_isOther).andThen <|
        (all_cleanTestSecurityGroups spares_of_isOther).andThen <|
        (all_cleanPlacementGroupsAws spares_of_isOther).andThen
          (all_cleanBlackholeRoutesAws spares_of_isOther)
  · split
    · rename_i gce
      simp only [gce, true_implies]
      rw [← spares_cleanInstancesGce_iff]
      constructor
      · intro all
        constructor
        intro call issued
        exact all.permits_of_mem call (mem_calls_andThen.mpr (.inl issued))
      · intro instances
        exact instances.andThen (all_cleanInactivePeeringsGce spares_of_isOther)
    · rename_i other
      exact ⟨fun _ gce => absurd gce other, fun _ => all_nothing⟩

lemma spares_deleteCloudClusters_iff
    (scheduled : "scylla-db" ∈ nodeTypesToCleanup config criticalEvents) (clusters : List Resource) :
    All (Spares config criticalEvents world)
        (deleteCloudClusters world config (scheduledTags config criticalEvents params) clusters
          false) ↔
      ∀ cluster ∈ clusters, namedAfterTest (scheduledTags config criticalEvents params) cluster =
          true → (cleanupClusterVpcPeering world config cluster).raised = false →
        world.refuses (.on .delete .cloudCluster cluster) = false →
        ¬ TakesKept config criticalEvents world cluster := by
  unfold deleteCloudClusters
  constructor
  · intro all cluster listed named quiet accepted taken
    refine all.permits_of_mem (.on .delete .cloudCluster cluster) ?_ accepted (.inr taken)
    rw [Issued.mem_calls_each_of_quiet fun _ _ => rfl]
    refine ⟨cluster, mem_filter.mpr ⟨listed, named⟩, mem_calls_andThen.mpr (.inr ⟨quiet, ?_⟩)⟩
    exact mem_calls_andThen.mpr (.inl (mem_singleton_self _))
  · intro spared
    apply all_each
    intro cluster found
    obtain ⟨listed, named⟩ := mem_filter.mp found
    constructor
    intro call issued
    rcases mem_calls_andThen.mp issued with before | ⟨quiet, deleted⟩
    · exact (spares_cleanupClusterVpcPeering cluster).permits_of_mem call before
    · have free : ¬ IsKept config criticalEvents "db_nodes" :=
        not_isKept_of_mem (by decide) scheduled
      refine (all_reportedCall fun accepted destroyed => ?_).permits_of_mem call deleted
      exact destroyed.elim free (spared cluster listed named quiet accepted)

lemma spares_cleanClustersScyllaCloud_iff :
    All (Spares config criticalEvents world)
        (cleanClustersScyllaCloud world config (scheduledTags config criticalEvents params) false) ↔
      CloudClustersSpared world config criticalEvents params ∧
        (ReachesGceSide world config criticalEvents params →
          NamedInstancesSpared world config criticalEvents params) := by
  unfold cleanClustersScyllaCloud CloudClustersSpared ReachesGceSide
  rw [all_assertTags_andThen_iff raised_assertTags_scheduledTags, all_unlessTypeMissing_iff]
  by_cases scheduled : "scylla-db" ∈ nodeTypesToCleanup config criticalEvents
  · cases world.listed .cloudCluster "" with
    | none => simp [all_raise]
    | some clusters =>
      simp only [scheduled, true_implies, Option.some.injEq, forall_eq', exists_eq_left', true_and]
      split
      · rename_i none
        rw [List.isEmpty_iff, filter_eq_nil_iff] at none
        refine iff_of_true all_nothing ⟨fun cluster listed named => ?_, fun reached => ?_⟩
        · exact absurd named (none cluster listed)
        · obtain ⟨-, cluster, listed, named⟩ := reached
          exact absurd named (none cluster listed)
      · rename_i some
        rw [List.isEmpty_iff, filter_eq_nil_iff] at some
        push Not at some
        have quiet : (deleteCloudClusters world config (scheduledTags config criticalEvents params)
            clusters false).raised = false := by
          unfold deleteCloudClusters
          rw [Issued.raised_each_eq_false_iff]
          exact fun _ _ => rfl
        rw [all_andThen_iff quiet, spares_deleteCloudClusters_iff scheduled,
          spares_cleanProviderSide_iff]
        simp only [some, and_true]
  · simp [scheduled]

/-! ## The whole cleanup -/

variable (world config criticalEvents params) in
/-- The cleaners that do not look at the types of all they take away spare what is to be kept. -/
structure SparesKept : Prop where
  eks : config.clusterBackend ∈ ["k8s-eks", ""] → ∀ scanned,
    scannedRegions world (awsRegions config) = some scanned →
      ClustersSpared world config criticalEvents params .eksCluster (listClustersEks world scanned)
  gke : config.clusterBackend ∈ ["k8s-gke", ""] →
    ClustersSpared world config criticalEvents params .gkeCluster
      ((world.listed .gkeCluster "").getD [])
  hosts : config.clusterBackend ∈ ["aws", "k8s-eks", ""] →
    HostsSpared world config criticalEvents params
  instances : config.clusterBackend ∈ ["gce", "k8s-gke", ""] ∨
      config.clusterBackend = "xcloud" ∧ ReachesGceSide world config criticalEvents params →
    NamedInstancesSpared world config criticalEvents params
  groups : config.clusterBackend ∈ ["azure", ""] → GroupsSpared world config criticalEvents params
  containers : ContainersSpared world config criticalEvents params
  cloud : config.clusterBackend = "xcloud" →
    CloudClustersSpared world config criticalEvents params

lemma spares_steps_iff (given : params.withoutNodeType.entries ≠ []) :
    (∀ step ∈ stepsBefore world config (scheduledTags config criticalEvents params) false ++
        stepsAfter world config (scheduledTags config criticalEvents params) false,
      All (Spares config criticalEvents world) step) ↔
      SparesKept world config criticalEvents params := by
  have typed := @get_nodeType_scheduledTags config criticalEvents params
  have kms : All (Spares config criticalEvents world)
      (skipIf (config.clusterBackend != "aws" || false)
        (cleanAwsKmsAlias world (scheduledTags config criticalEvents params) (awsRegions config))) :=
    all_skipIf fun _ => spares_cleanAwsKmsAlias
  have oci := @spares_cleanInstancesOci config criticalEvents world
    (scheduledTags config criticalEvents params) false get_nodeType_scheduledTags
  unfold stepsBefore stepsAfter
  simp only [spares_cleanClustersEks_iff, all_cleanLaunchTemplatesAws spares_of_isOther,
    all_cleanLoadBalancersAws spares_of_isOther, all_cleanOrphanedGkeDisks spares_of_isOther,
    all_cleanCloudformationStacksAws spares_of_isOther, spares_cleanClustersGke_iff,
    spares_cleanEmrClusters typed, spares_cleanSpotFleetRequestsAws typed,
    spares_cleanInstancesAws typed, forall_mem_append, forall_mem_forBackends_iff, forall_mem_cons,
    not_mem_nil, false_implies, implies_true, and_true, spares_releaseByTags_iff given,
    all_cleanElasticIpsAws spares_of_isOther, all_cleanTestSecurityGroups spares_of_isOther,
    all_cleanPlacementGroupsAws spares_of_isOther, kms,
    all_cleanResolvedPlacement spares_of_isOther, spares_cleanInstancesGce_iff,
    spares_cleanInstancesAzure_iff, spares_cleanResourcesDocker_iff,
    spares_cleanClustersScyllaCloud_iff, oci, all_cleanOrphanBlockVolumesOci spares_of_isOther,
    mem_singleton (b := "xcloud")]
  constructor
  · rintro ⟨⟨eks, gke⟩, ⟨⟨⟨hosts, gce⟩, groups⟩, containers⟩, cloud⟩
    refine ⟨eks, gke, hosts, ?_, groups, containers, fun backend => (cloud backend).1⟩
    rintro (direct | ⟨backend, reached⟩)
    · exact gce direct
    · exact (cloud backend).2 reached
  · intro spared
    refine ⟨⟨spared.eks, spared.gke⟩,
      ⟨⟨⟨spared.hosts, fun direct => spared.instances (.inl direct)⟩, spared.groups⟩,
        spared.containers⟩, fun backend => ⟨spared.cloud backend, fun reached => ?_⟩⟩
    exact spared.instances (.inr ⟨backend, reached⟩)

lemma spares_cleanResourcesBaremetal :
    All (Spares config criticalEvents world)
      (cleanResourcesBaremetal world config (scheduledTags config criticalEvents params) false) := by
  unfold cleanResourcesBaremetal
  split
  · exact all_nothing
  · rename_i some
    have parts : baremetalSections (scheduledTags config criticalEvents params) =
        (nodeTypesToCleanup config criticalEvents).filterMap fun nodeType =>
          (baremetalHostsSections.lookup nodeType).map fun part => (nodeType, part) := by
      unfold baremetalSections
      rw [get_nodeType_scheduledTags]
    apply All.andThen
    · apply all_skipIf
      intro _
      apply spares_cleanResourcesDocker_iff.mpr
      intro none
      rw [parts, none] at some
      exact absurd rfl some
    · apply all_each
      intro part listed
      rw [parts, mem_filterMap] at listed
      obtain ⟨nodeType, scheduled, made⟩ := listed
      obtain ⟨found, -, rfl⟩ := Option.map_eq_some_iff.mp made
      unfold cleanHosts
      split
      · exact all_raise
      · apply all_each
        intro address _
        apply all_skipIf
        intro _
        exact all_attempt fun _ => not_isKeptType_of_mem scheduled

end Unasked

variable {params : Tags}

lemma withoutNodeType_ne_nil {key : String} (given : key ∈ params) (other : key ≠ "NodeType") :
    params.withoutNodeType.entries ≠ [] := by
  obtain ⟨value, found⟩ := (Dict.mem_iff _ _).mp given
  apply entries_ne_nil_of_mem ((Dict.mem_iff _ key).mpr ⟨value, ?_⟩)
  unfold Tags.withoutNodeType
  rw [Dict.get_erase, if_neg other, found]

def testHost : Resource := ⟨"h-1", "", [("TestId", "test-1")], "available", false⟩

def testContainer : Resource :=
  ⟨"c-1", "db-node-1", [("TestId", "test-1"), ("NodeType", "scylla-db")], "running", false⟩

end Sct.Cleanup
