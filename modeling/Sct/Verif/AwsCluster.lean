import Mathlib.Data.List.ProdSigma
import Sct.Provision.Aws.Cluster

/-!
# The requests of the DB cluster

Every run makes the `requests` in order until one fails (`provision_traces`). They fit the planned
nodes exactly when in every region the zones divide the number of data nodes or that of zero-token
nodes: the sizes of the two batches of a zone are dealt separately, while the planned nodes they are
cut from are dealt together.
-/

open Sct.Effect
open List

namespace Sct.Aws

variable {κ ι : Type}

/-- A request with a name and tags for every instance. -/
structure Request.Sized (request : Request) : Prop where
  names : request.nodeNames.length = request.nodeCount
  tags : request.nodeTags.length = request.nodeCount

namespace DbCluster

variable (cluster : DbCluster)

/-! ## The planned nodes -/

def planned : NodeKind → Nat → Nat
  | .data, regionId => cluster.getDataNodes.getD regionId 0
  | .zeroToken, regionId => cluster.getZeroTokenNodes.getD regionId 0

lemma azs_pos : 0 < cluster.azs.length := by
  have split := splitOn_ne_nil ',' cluster.availabilityZone
  exact length_pos_iff.mpr split

lemma nodup_activeRegionIds : cluster.activeRegionIds.Nodup :=
  nodup_range.filter _

variable {regionId : Nat}

lemma nodeNums_of_active (active : regionId ∈ cluster.activeRegionIds) :
    cluster.nodeNums.getD regionId 0 =
      cluster.planned .data regionId + cluster.planned .zeroToken regionId := by
  have present : regionId < cluster.nodeNums.length := by
    have tested := (mem_filter.mp active).2
    exact (of_decide_eq_true tested).1
  unfold nodeNums at present ⊢
  by_cases none : cluster.getZeroTokenNodes = []
  · simp [none, planned]
  · rw [if_neg none] at present ⊢
    rw [length_zipWith] at present
    have data : regionId < cluster.getDataNodes.length := by omega
    have zero : regionId < cluster.getZeroTokenNodes.length := by omega
    simp [planned, data, zero]

def regionNodes (regionId start : Nat) : List ClusterNode :=
  (List.range (cluster.nodeNums.getD regionId 0)).map fun idx =>
    ⟨regionId, idx % cluster.azs.length, start + idx + 1, cluster.nodePrefix⟩

lemma addRegion_eq (nodes : List ClusterNode) (start regionId : Nat) :
    cluster.addRegion (nodes, start) regionId =
      (nodes ++ cluster.regionNodes regionId start,
        start + cluster.nodeNums.getD regionId 0) := by
  unfold addRegion regionNodes
  generalize cluster.nodeNums.getD regionId 0 = count
  induction count with
  | zero => simp
  | succ count ih =>
    rw [range_succ, foldl_append, ih]
    simp [addNode, Nat.add_assoc]

def plannedNodes : List Nat → Nat → List ClusterNode
  | [], _ => []
  | regionId :: rest, start =>
    cluster.regionNodes regionId start ++
      plannedNodes rest (start + cluster.nodeNums.getD regionId 0)

lemma foldl_addRegion (regionIds : List Nat) (nodes : List ClusterNode) (start : Nat) :
    (regionIds.foldl cluster.addRegion (nodes, start)).1 =
      nodes ++ cluster.plannedNodes regionIds start := by
  induction regionIds generalizing nodes start with
  | nil => simp [plannedNodes]
  | cons regionId rest ih =>
    rw [foldl_cons, addRegion_eq, ih, plannedNodes, append_assoc]

lemma nodes_eq : cluster.nodes = cluster.plannedNodes cluster.activeRegionIds 0 := by
  rw [nodes, foldl_addRegion, nil_append]

lemma mem_plannedNodes {regionIds : List Nat} {start : Nat} {node : ClusterNode}
    (listed : node ∈ cluster.plannedNodes regionIds start) :
    node.regionId ∈ regionIds ∧ node.azId < cluster.azs.length ∧
      node.nodeNamePrefix = cluster.nodePrefix := by
  induction regionIds generalizing start with
  | nil => simp [plannedNodes] at listed
  | cons regionId rest ih =>
    rcases mem_append.mp listed with here | later
    · obtain ⟨idx, -, rfl⟩ := mem_map.mp here
      exact ⟨mem_cons_self, Nat.mod_lt idx cluster.azs_pos, rfl⟩
    · obtain ⟨region, others⟩ := ih later
      exact ⟨mem_cons_of_mem regionId region, others⟩

lemma plannedNodes_numbers (regionIds : List Nat) (start : Nat) :
    (cluster.plannedNodes regionIds start).map ClusterNode.nodeNum =
      List.range' (start + 1) (cluster.plannedNodes regionIds start).length := by
  induction regionIds generalizing start with
  | nil => simp [plannedNodes]
  | cons regionId rest ih =>
    have here : (cluster.regionNodes regionId start).map ClusterNode.nodeNum =
        List.range' (start + 1) (cluster.nodeNums.getD regionId 0) := by
      rw [range'_eq_map_range, regionNodes, map_map]
      apply map_congr_left
      simp only [Function.comp_apply]
      omega
    have size : (cluster.regionNodes regionId start).length =
        cluster.nodeNums.getD regionId 0 := by simp [regionNodes]
    rw [plannedNodes, map_append, length_append, here, ih, size,
      ← range'_append_1]
    congr 2
    omega

variable {azId : Nat}

lemma count_plannedNodes (zone : azId < cluster.azs.length) (regionId : Nat)
    (regionIds : List Nat) (start : Nat) :
    (cluster.plannedNodes regionIds start).countP
        (fun node => decide (node.regionId = regionId ∧ node.azId = azId)) =
      regionIds.count regionId *
        RoundRobin.share (cluster.nodeNums.getD regionId 0) cluster.azs.length azId := by
  induction regionIds generalizing start with
  | nil => simp [plannedNodes]
  | cons first rest ih =>
    rw [plannedNodes, countP_append, ih, regionNodes, countP_map, count_cons]
    by_cases same : first = regionId
    · subst same
      have dealt := RoundRobin.count_residue zone (cluster.nodeNums.getD first 0)
      simp only [Function.comp_def, true_and, beq_self_eq_true, if_true, dealt]
      rw [Nat.add_mul, Nat.one_mul, Nat.add_comm]
    · simp [Function.comp_def, same]

lemma length_nodesAt (active : regionId ∈ cluster.activeRegionIds)
    (zone : azId < cluster.azs.length) :
    (cluster.nodesAt regionId azId).length =
      RoundRobin.share (cluster.planned .data regionId + cluster.planned .zeroToken regionId)
        cluster.azs.length azId := by
  have once := count_eq_one_of_mem cluster.nodup_activeRegionIds active
  rw [nodesAt, ← countP_eq_length_filter, nodes_eq, cluster.count_plannedNodes zone, once,
    Nat.one_mul, cluster.nodeNums_of_active active]

lemma nodup_names : (cluster.nodes.map ClusterNode.name).Nodup := by
  let named (nodeNum : Nat) : String := cluster.nodePrefix ++ "-" ++ toString nodeNum
  have by_number : cluster.nodes.map ClusterNode.name =
      (cluster.nodes.map ClusterNode.nodeNum).map named := by
    rw [map_map]
    apply map_congr_left
    intro node listed
    rw [nodes_eq] at listed
    simp [ClusterNode.name, named, (cluster.mem_plannedNodes listed).2.2]
  have injective : Function.Injective named := by
    intro left right same
    exact toString_injective ((String.append_right_inj _).mp same)
  rw [by_number, nodes_eq, plannedNodes_numbers]
  exact (nodup_range' 1).map injective

/-! ## The requests of a run -/

def batch (kind : NodeKind) (regionId azId : Nat) : Nat :=
  RoundRobin.share (cluster.planned kind regionId) cluster.azs.length azId

lemma azNodes_data (zone : azId < cluster.azs.length) (regionId : Nat) :
    (cluster.azNodes regionId).1.getD azId 0 = cluster.batch .data regionId azId :=
  RoundRobin.getD_deal zone _

lemma azNodes_zeroToken (zone : azId < cluster.azs.length) (regionId : Nat) :
    (cluster.azNodes regionId).2.getD azId 0 = cluster.batch .zeroToken regionId azId := by
  unfold azNodes batch planned
  by_cases none : cluster.getZeroTokenNodes = []
  · simp [none, zone, RoundRobin.share]
  · rw [if_neg none]
    exact RoundRobin.getD_deal zone _

def batchesAt (regionId azId : Nat) : List Request :=
  let nodeCount := (cluster.azNodes regionId).1.getD azId 0
  let zeroNodeCount := (cluster.azNodes regionId).2.getD azId 0
  [cluster.dataRequest regionId azId nodeCount,
    cluster.zeroTokenRequest regionId azId nodeCount zeroNodeCount]

def requestsAt (regionId azId : Nat) : List Request :=
  (cluster.batchesAt regionId azId).filter fun request => decide (request.nodeCount ≠ 0)

def provisionedRegionIds (skipRegionIds : List Nat) : List Nat :=
  cluster.activeRegionIds.filter fun regionId => decide (regionId ∉ skipRegionIds)

def requests (skipRegionIds : List Nat) : List Request :=
  (cluster.provisionedRegionIds skipRegionIds).flatMap fun regionId =>
    (List.range cluster.azs.length).flatMap (cluster.requestsAt regionId)

lemma batchesAt_eq (zone : azId < cluster.azs.length) (regionId : Nat) :
    cluster.batchesAt regionId azId =
      [cluster.dataRequest regionId azId (cluster.batch .data regionId azId),
        cluster.zeroTokenRequest regionId azId (cluster.batch .data regionId azId)
          (cluster.batch .zeroToken regionId azId)] := by
  unfold batchesAt
  rw [cluster.azNodes_data zone, cluster.azNodes_zeroToken zone]

lemma mem_requests {skipRegionIds : List Nat} {request : Request} :
    request ∈ cluster.requests skipRegionIds ↔
      ∃ regionId ∈ cluster.provisionedRegionIds skipRegionIds, ∃ azId < cluster.azs.length,
        request ∈ cluster.requestsAt regionId azId := by
  simp [requests]

/-! ## Runs -/

variable (ec2 : Ec2 κ ι)

lemma launch_keeps_requests (request : Request) (made : List Request) :
    Keeps (fun state => state.requests = made) (cluster.launch ec2 request) := by
  refine keeps_bind (keeps_zoom _ _ _ fun _ _ kept => kept) fun instances => ?_
  split
  · exact keeps_throw _
  · exact keeps_pure _

variable {fails : Request → Prop}

lemma provisionAzInstances_traces (request : Request)
    (blamed : ∀ before exc after, (cluster.launch ec2 request).run before = .error exc after →
      fails request) :
    Traces ClusterState.requests fails [request] (cluster.provisionAzInstances ec2 request) := by
  intro state
  let recorded : ClusterState κ ι := { state with requests := state.requests ++ [request] }
  have kept := cluster.launch_keeps_requests ec2 request recorded.requests
  unfold provisionAzInstances
  rw [EStateM.run_bind, EStateM.run_modify]
  simp only
  rw [EStateM.run_bind, run_tryCatch]
  cases launched : (cluster.launch ec2 request).run recorded with
  | ok instances after =>
    have logged := kept.of_ok rfl launched
    exact logged
  | error exc after =>
    exact ⟨[], request, [], rfl, kept.of_error rfl launched, blamed recorded exc after launched⟩

lemma provisionBatch_traces (request : Request)
    (blamed : ∀ before exc after, (cluster.launch ec2 request).run before = .error exc after →
      fails request) :
    Traces ClusterState.requests fails
      ([request].filter fun batch => decide (batch.nodeCount ≠ 0))
      (cluster.provisionBatch ec2 request) := by
  have traces := cluster.provisionAzInstances_traces ec2 request blamed
  unfold provisionBatch
  by_cases empty : request.nodeCount = 0
  · simpa [empty] using traces_pure _
  · simpa [empty] using traces

lemma requests_of_no_nodes (noNodes : cluster.nodeNums = [0]) (skipRegionIds : List Nat) :
    cluster.requests skipRegionIds = [] := by
  have inactive : cluster.activeRegionIds = [] := by
    apply filter_eq_nil_iff.mpr
    intro regionId _
    cases regionId <;> simp [noNodes]
  simp [requests, provisionedRegionIds, inactive]

lemma requests_eq_flatMap (skipRegionIds : List Nat) :
    cluster.requests skipRegionIds = cluster.activeRegionIds.flatMap fun regionId =>
      if regionId ∉ skipRegionIds then
        (List.range cluster.azs.length).flatMap (cluster.requestsAt regionId)
      else [] := by
  unfold requests provisionedRegionIds
  induction cluster.activeRegionIds with
  | nil => rfl
  | cons regionId rest ih =>
    rw [filter_cons, flatMap_cons, ← ih]
    by_cases skipped : regionId ∈ skipRegionIds <;> simp [skipped]

lemma provision_traces (skipRegionIds : List Nat)
    (blamed : ∀ request before exc after, (cluster.launch ec2 request).run before = .error exc
      after → fails request) :
    Traces ClusterState.requests fails (cluster.requests skipRegionIds)
      (cluster.provision ec2 skipRegionIds) := by
  have zone_traces (regionId azId : Nat) : Traces ClusterState.requests fails
      (cluster.requestsAt regionId azId) (cluster.provisionAz ec2 regionId azId) := by
    unfold requestsAt batchesAt
    rw [← singleton_append, filter_append]
    apply traces_bind
    · exact cluster.provisionBatch_traces ec2 _ (blamed _)
    · exact fun _ => cluster.provisionBatch_traces ec2 _ (blamed _)
  have region_traces (regionId : Nat) := traces_forM (List.range cluster.azs.length)
    (zone_traces regionId)
  unfold provision
  split
  · rename_i noNodes
    rw [cluster.requests_of_no_nodes noNodes]
    exact traces_pure _
  · rw [← append_nil (cluster.requests skipRegionIds), requests_eq_flatMap]
    apply traces_bind
    · exact traces_forM _ fun regionId => traces_ite (region_traces regionId)
    · exact fun _ => traces_bind traces_get fun _ => traces_pure _

/-! ## Batches against planned nodes -/

/-- The two batches of every zone together have the size of the zone. -/
def Even (skipRegionIds : List Nat) : Prop :=
  ∀ regionId ∈ cluster.provisionedRegionIds skipRegionIds,
    cluster.azs.length ∣ cluster.planned .data regionId ∨
      cluster.azs.length ∣ cluster.planned .zeroToken regionId

variable {cluster} {skipRegionIds : List Nat}

lemma active_of_provisioned
    (provisioned : regionId ∈ cluster.provisionedRegionIds skipRegionIds) :
    regionId ∈ cluster.activeRegionIds :=
  (mem_filter.mp provisioned).1

section

variable (active : regionId ∈ cluster.activeRegionIds) (zone : azId < cluster.azs.length)

include active zone

lemma batch_data_le :
    cluster.batch .data regionId azId ≤ (cluster.nodesAt regionId azId).length := by
  rw [cluster.length_nodesAt active zone]
  exact RoundRobin.share_le_joint zone _ _

lemma sized_zeroTokenRequest_iff :
    (cluster.zeroTokenRequest regionId azId (cluster.batch .data regionId azId)
      (cluster.batch .zeroToken regionId azId)).Sized ↔
      (cluster.nodesAt regionId azId).length =
        cluster.batch .data regionId azId + cluster.batch .zeroToken regionId azId := by
  have enough := batch_data_le active zone
  constructor
  · intro sized
    have names := sized.names
    simp only [zeroTokenRequest, length_drop, length_map] at names
    omega
  · intro filled
    constructor <;> simp only [zeroTokenRequest, length_drop, length_map] <;> omega

end

lemma even_of_sized (sized : ∀ request ∈ cluster.requests skipRegionIds, request.Sized) :
    cluster.Even skipRegionIds := by
  intro regionId provisioned
  have active := active_of_provisioned provisioned
  refine RoundRobin.dvd_or_dvd_of_share_add cluster.azs_pos fun azId zone some_nodes => ?_
  have listed : cluster.zeroTokenRequest regionId azId (cluster.batch .data regionId azId)
      (cluster.batch .zeroToken regionId azId) ∈ cluster.requests skipRegionIds := by
    refine cluster.mem_requests.mpr ⟨regionId, provisioned, azId, zone, ?_⟩
    rw [requestsAt, cluster.batchesAt_eq zone]
    exact mem_filter.mpr ⟨by simp, decide_eq_true some_nodes.ne'⟩
  rw [← cluster.length_nodesAt active zone]
  exact (sized_zeroTokenRequest_iff active zone).mp (sized _ listed)

lemma sized_of_even (even : cluster.Even skipRegionIds)
    (provisioned : regionId ∈ cluster.provisionedRegionIds skipRegionIds)
    (zone : azId < cluster.azs.length) :
    ∀ request ∈ cluster.batchesAt regionId azId, request.Sized := by
  have active := active_of_provisioned provisioned
  rw [cluster.batchesAt_eq zone]
  intro request listed
  rcases mem_cons.mp listed with rfl | listed
  · have enough := batch_data_le active zone
    constructor <;> simp [dataRequest, enough]
  · rw [mem_singleton.mp listed, sized_zeroTokenRequest_iff active zone,
      cluster.length_nodesAt active zone]
    exact RoundRobin.share_add zone (even regionId provisioned)

lemma flatMap_names_nonempty {batches : List Request}
    (sized : ∀ request ∈ batches, request.Sized) :
    (batches.filter fun request => decide (request.nodeCount ≠ 0)).flatMap Request.nodeNames =
      batches.flatMap Request.nodeNames := by
  induction batches with
  | nil => rfl
  | cons first rest ih =>
    have others := ih fun request listed => sized request (mem_cons_of_mem first listed)
    have names := (sized first mem_cons_self).names
    by_cases empty : first.nodeCount = 0
    · have none : first.nodeNames = [] := by
        apply eq_nil_of_length_eq_zero
        omega
      simp [empty, none] at others ⊢
      exact others
    · simp [empty] at others ⊢
      exact others

lemma names_requests (even : cluster.Even skipRegionIds) :
    ((cluster.requests skipRegionIds).flatMap Request.nodeNames).Perm
      ((cluster.nodes.filter fun node => decide (node.regionId ∉ skipRegionIds)).map
        ClusterNode.name) := by
  let place (node : ClusterNode) : Nat × Nat := (node.regionId, node.azId)
  let places := (cluster.provisionedRegionIds skipRegionIds).product
    (List.range cluster.azs.length)
  have distinct : places.Nodup :=
    (cluster.nodup_activeRegionIds.filter _).product nodup_range
  have by_place : (cluster.requests skipRegionIds).flatMap Request.nodeNames =
      (places.flatMap fun bucket =>
        cluster.nodes.filter fun node => decide (place node = bucket)).map ClusterNode.name := by
    simp only [requests, places, List.product, flatMap_assoc, flatMap_map,
      map_flatMap]
    refine flatMap_congr fun regionId provisioned => flatMap_congr fun azId zone => ?_
    have inside := mem_range.mp zone
    rw [requestsAt, flatMap_names_nonempty (sized_of_even even provisioned inside),
      cluster.batchesAt_eq inside]
    simp [dataRequest, zeroTokenRequest, nodesAt, place]
  have sorted := RoundRobin.flatMap_buckets_perm place cluster.nodes distinct
  rw [by_place]
  refine (sorted.trans (.of_eq (filter_congr fun node listed => ?_))).map ClusterNode.name
  rw [nodes_eq] at listed
  obtain ⟨region, zone, -⟩ := cluster.mem_plannedNodes listed
  simp [place, places, pair_mem_product, provisionedRegionIds, region, zone]

/-! ## Tags and numbers -/

def zeroTokenTag : NodeKind → Option String
  | .data => none
  | .zeroToken => some "True"

lemma tagged_batchesAt (untagged : cluster.commonTags "ZeroTokenNode" = none)
    (regionId azId : Nat) :
    ∀ request ∈ cluster.batchesAt regionId azId, ∀ tags ∈ request.nodeTags,
      tags "ZeroTokenNode" = zeroTokenTag request.kind := by
  intro request listed tags tagged
  rcases mem_cons.mp listed with rfl | listed
  · obtain ⟨node, -, rfl⟩ := mem_map.mp (mem_of_mem_take tagged)
    show cluster.nodeTags node "ZeroTokenNode" = none
    simp [nodeTags, DbCluster.tags, Tags.set, untagged]
  · rw [mem_singleton.mp listed] at tagged ⊢
    obtain ⟨earlier, -, rfl⟩ := mem_map.mp tagged
    exact Tags.set_self earlier _ _

def requested (kind : NodeKind) (regionId : Nat) (requests : List Request) : Nat :=
  ((requests.filter fun request => decide (request.regionId = regionId ∧ request.kind = kind)).map
    Request.nodeCount).sum

variable (kind : NodeKind)

lemma requested_flatMap {α : Type} (regionId : Nat) (items : List α) (made : α → List Request) :
    requested kind regionId (items.flatMap made) =
      (items.map fun item => requested kind regionId (made item)).sum := by
  induction items with
  | nil => rfl
  | cons item rest ih =>
    rw [flatMap_cons, map_cons, sum_cons, ← ih]
    simp [requested]

lemma requested_cons (regionId : Nat) (first : Request) (rest : List Request) :
    requested kind regionId (first :: rest) =
      (if first.regionId = regionId ∧ first.kind = kind then first.nodeCount else 0) +
        requested kind regionId rest := by
  unfold requested
  by_cases counted : first.regionId = regionId ∧ first.kind = kind
  · simp [counted]
  · simp [counted]

lemma requested_nonempty (regionId : Nat) (batches : List Request) :
    requested kind regionId (batches.filter fun request => decide (request.nodeCount ≠ 0)) =
      requested kind regionId batches := by
  induction batches with
  | nil => rfl
  | cons first rest ih =>
    rw [filter_cons, requested_cons, ← ih]
    by_cases empty : first.nodeCount = 0
    · simp [empty]
    · simp [empty, requested_cons]

lemma requested_region (regionId other : Nat) :
    requested kind regionId
        ((List.range cluster.azs.length).flatMap (cluster.requestsAt other)) =
      if other = regionId then cluster.planned kind other else 0 := by
  have by_zone : (List.range cluster.azs.length).map
      (fun azId => requested kind regionId (cluster.requestsAt other azId)) =
      (List.range cluster.azs.length).map fun azId =>
        if other = regionId then cluster.batch kind other azId else 0 := by
    apply map_congr_left
    intro azId zone
    rw [requestsAt, requested_nonempty, cluster.batchesAt_eq (mem_range.mp zone), requested_cons,
      requested_cons]
    cases kind <;> simp [requested, dataRequest, zeroTokenRequest]
  rw [requested_flatMap, by_zone]
  by_cases same : other = regionId
  · simp only [same, if_true]
    have short := (Nat.mod_lt (cluster.planned kind regionId) cluster.azs_pos).le
    exact (RoundRobin.sum_share_range ..).trans (by rw [Nat.min_eq_right short, Nat.div_add_mod])
  · simp [same]

lemma requested_requests (provisioned : regionId ∈ cluster.provisionedRegionIds skipRegionIds) :
    requested kind regionId (cluster.requests skipRegionIds) = cluster.planned kind regionId := by
  have distinct : (cluster.provisionedRegionIds skipRegionIds).Nodup :=
    cluster.nodup_activeRegionIds.filter _
  have once := count_eq_one_of_mem distinct provisioned
  rw [requests, requested_flatMap, sum_map_eq_nsmul_single regionId, once, one_nsmul,
    requested_region, if_pos rfl]
  intro other differs _
  rw [requested_region, if_neg differs]

/-! ## The contract -/

/-- Requests that provision the planned nodes of the regions that are not skipped. -/
structure Fits (cluster : DbCluster) (skipRegionIds : List Nat) (requests : List Request) :
    Prop where
  sized : ∀ request ∈ requests, request.Sized
  names : (requests.flatMap Request.nodeNames).Perm
    ((cluster.nodes.filter fun node => decide (node.regionId ∉ skipRegionIds)).map
      ClusterNode.name)
  distinct : (requests.flatMap Request.nodeNames).Nodup
  tagged : ∀ request ∈ requests, ∀ tags ∈ request.nodeTags,
    tags "ZeroTokenNode" = zeroTokenTag request.kind
  requested : ∀ regionId ∈ cluster.provisionedRegionIds skipRegionIds, ∀ kind,
    requested kind regionId requests = cluster.planned kind regionId

/-- What provisioning asks for, whatever the cloud answers. -/
structure Provisions (cluster : DbCluster) (skipRegionIds : List Nat) : Prop where
  returned : ∀ (κ ι : Type) (ec2 : Ec2 κ ι) (before after : ClusterState κ ι)
    (instances : List ι), before.requests = [] →
    (cluster.provision ec2 skipRegionIds).run before = .ok instances after →
    Fits cluster skipRegionIds after.requests
  raised : ∀ (κ ι : Type) (ec2 : Ec2 κ ι) (before after : ClusterState κ ι) (exc : Exc),
    before.requests = [] →
    (cluster.provision ec2 skipRegionIds).run before = .error exc after →
    ∀ request ∈ after.requests, request.Sized

lemma fits_of_even (untagged : cluster.commonTags "ZeroTokenNode" = none)
    (even : cluster.Even skipRegionIds) :
    Fits cluster skipRegionIds (cluster.requests skipRegionIds) where
  sized := by
    intro request listed
    obtain ⟨regionId, provisioned, azId, zone, here⟩ := cluster.mem_requests.mp listed
    exact sized_of_even even provisioned zone request (mem_filter.mp here).1
  names := names_requests even
  distinct := by
    have planned := cluster.nodup_names
    have kept := (@List.filter_sublist _ (fun node : ClusterNode =>
      decide (node.regionId ∉ skipRegionIds)) cluster.nodes).map ClusterNode.name
    exact (names_requests even).nodup_iff.mpr (planned.sublist kept)
  tagged := by
    intro request listed
    obtain ⟨regionId, -, azId, -, here⟩ := cluster.mem_requests.mp listed
    exact tagged_batchesAt untagged regionId azId request (mem_filter.mp here).1
  requested := fun _ provisioned kind => requested_requests kind provisioned

def generous : Ec2 Unit Unit := fun _ _ => [fun _ => pure [()]]

lemma generous_blames (request : Request) (before : ClusterState Unit Unit) (exc : Exc)
    (after : ClusterState Unit Unit)
    (raised : (cluster.launch generous request).run before = .error exc after) :
    ¬request.Sized := by
  intro sized
  have granted : provisionInstances request [fun _ => pure [()]] =
      (pure [()] : EStateM Exc Unit (List Unit)) := by
    simp [provisionInstances, provisionInstanceStep, sized.names, sized.tags]
  unfold launch generous at raised
  simp only [granted] at raised
  cases raised

/-- Provisioning asks for what is planned exactly when in every region the zones divide the
number of data nodes or that of zero-token nodes. -/
theorem provisions_iff_even (cluster : DbCluster) (skipRegionIds : List Nat)
    (untagged : cluster.commonTags "ZeroTokenNode" = none) :
    Provisions cluster skipRegionIds ↔
      ∀ regionId ∈ cluster.activeRegionIds, regionId ∉ skipRegionIds →
        cluster.azs.length ∣ cluster.getDataNodes.getD regionId 0 ∨
          cluster.azs.length ∣ cluster.getZeroTokenNodes.getD regionId 0 := by
  have even_iff : cluster.Even skipRegionIds ↔ ∀ regionId ∈ cluster.activeRegionIds,
      regionId ∉ skipRegionIds →
        cluster.azs.length ∣ cluster.getDataNodes.getD regionId 0 ∨
          cluster.azs.length ∣ cluster.getZeroTokenNodes.getD regionId 0 := by
    simp [Even, provisionedRegionIds, planned]
  rw [← even_iff]
  constructor
  · intro provisions
    have traces := cluster.provision_traces generous skipRegionIds generous_blames
    let before : ClusterState Unit Unit := ⟨(), [], []⟩
    cases ran : (cluster.provision generous skipRegionIds).run before with
    | ok instances after =>
      have fits := provisions.returned Unit Unit generous before after instances rfl ran
      rw [traces.of_ok ran] at fits
      exact even_of_sized fits.sized
    | error exc after =>
      have sized := provisions.raised Unit Unit generous before after exc rfl ran
      obtain ⟨made, last, rest, -, recorded, failed⟩ := traces.of_error ran
      have reached : last ∈ after.requests := by simp [recorded]
      exact absurd (sized last reached) failed
  · intro even
    have fits := fits_of_even untagged even
    have traces {κ ι : Type} (ec2 : Ec2 κ ι) : Traces ClusterState.requests (fun _ => True)
        (cluster.requests skipRegionIds) (cluster.provision ec2 skipRegionIds) :=
      cluster.provision_traces ec2 skipRegionIds fun _ _ _ _ _ => trivial
    constructor
    · intro κ ι ec2 before after instances fresh ran
      have recorded := (traces ec2).of_ok ran
      rwa [recorded, fresh, nil_append]
    · intro κ ι ec2 before after exc fresh ran request listed
      obtain ⟨made, last, rest, split, recorded, -⟩ := (traces ec2).of_error ran
      rw [recorded, fresh, nil_append] at listed
      refine fits.sized request ?_
      rw [split]
      simp only [mem_append, mem_cons] at listed ⊢
      tauto

end DbCluster

def evenCluster : DbCluster where
  regionNames := ["us-east-1"]
  availabilityZone := "a,b"
  nDbNodes := .single 2
  nDbZeroTokenNodes := .single 1
  useZeroNodes := true
  userPrefix := "longevity"
  testId := "3f0c9a2e-77aa"
  commonTags := fun _ => none
  amiDbScyllaUser := "scyllaadm"

theorem evenCluster_provisions : DbCluster.Provisions evenCluster [] :=
  (DbCluster.provisions_iff_even evenCluster [] rfl).mpr (by decide)

def unevenCluster : DbCluster := { evenCluster with nDbNodes := .single 1 }

/-- The zero-token node of the uneven cluster is requested without a name or tags, the
provisioner refuses the request, and the second planned node is never requested. -/
theorem unevenCluster_refused :
    ∃ after : ClusterState Unit Unit,
      (unevenCluster.provision DbCluster.generous []).run ⟨(), [], []⟩ =
        .error (assertionError "Tags length should be equal to count") after ∧
      after.requests.map (fun request => (request.azId, request.kind, request.nodeCount)) =
        [(0, .data, 1), (0, .zeroToken, 1)] ∧
      after.requests.map Request.nodeNames = [["longevity-db-node-3f0c9a2e-1"], []] ∧
      after.requests.map (fun request => request.nodeTags.length) = [1, 0] ∧
      unevenCluster.nodes.map ClusterNode.name =
        ["longevity-db-node-3f0c9a2e-1", "longevity-db-node-3f0c9a2e-2"] :=
  ⟨_, rfl, by decide⟩

end Sct.Aws
