import Mathlib.Data.List.Dedup
import Sct.Lib.Dict

/-!
# The layout of a cluster

`group_nodes_by_dc_idx` and `check_cluster_layout` of `sdcm/utils/cluster_tools.py`. A node is in
one of the racks of the cluster.
-/

open List

namespace Sct.Utils

structure DbNode where
  dcIdx : Nat
  rack : Nat

structure DbCluster where
  nodes : List DbNode
  racksCount : Nat
  nDbNodes : List Nat
  capacityErrorsCheckMode : String
  racked : ∀ node ∈ nodes, node.rack < racksCount

def groupNodesByDcIdx (nodes : List DbNode) : Dict Nat (List DbNode) :=
  nodes.foldl (fun groups node =>
    groups.set node.dcIdx ((groups.get node.dcIdx).getD [] ++ [node])) .empty

namespace DbCluster

variable (cluster : DbCluster)

/-- The checks of one datacenter: the racks that occur, and the configured count, 0 for an index
that is not in the configuration. -/
def checkDc (dcIdx : Nat) (nodesInDc : List DbNode) : Bool :=
  (nodesInDc.map DbNode.rack).dedup.length == cluster.racksCount &&
    cluster.nDbNodes[dcIdx]?.getD 0 == nodesInDc.length

def checkClusterLayout : Except String Bool :=
  if cluster.capacityErrorsCheckMode = "" ∨
      cluster.capacityErrorsCheckMode = "per-initial_config" then
    .ok ((groupNodesByDcIdx cluster.nodes).entries.all fun (dcIdx, nodesInDc) =>
      cluster.checkDc dcIdx nodesInDc)
  else if cluster.capacityErrorsCheckMode = "disabled" then .ok true
  else .error (s!"Unknown capacity_errors_check_mode: {cluster.capacityErrorsCheckMode}. " ++
    "Supported modes are: 'per-initial_config', 'disabled'.")

end DbCluster

end Sct.Utils
