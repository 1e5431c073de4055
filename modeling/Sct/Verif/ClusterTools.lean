import Mathlib.Data.Finset.Card
import Mathlib.Data.Finset.Range
import Sct.Utils.ClusterTools

/-!
# Which layouts pass

The check goes over the datacenters that have nodes. It is right about them and about surplus ones,
and does not see a configured one without nodes.
-/

open List

namespace Sct.Utils

def nodesIn (nodes : List DbNode) (dcIdx : Nat) : List DbNode :=
  nodes.filter fun node => node.dcIdx = dcIdx

lemma get_groupNodesByDcIdx (nodes : List DbNode) (dcIdx : Nat) :
    (groupNodesByDcIdx nodes).get dcIdx =
      if nodesIn nodes dcIdx = [] then none else some (nodesIn nodes dcIdx) := by
  induction nodes using List.reverseRecOn with
  | nil => rfl
  | append_singleton nodes node ih =>
    have step : groupNodesByDcIdx (nodes ++ [node]) = (groupNodesByDcIdx nodes).set node.dcIdx
        (((groupNodesByDcIdx nodes).get node.dcIdx).getD [] ++ [node]) := foldl_append
    rw [step, Dict.get_set, nodesIn, filter_append]
    by_cases own : node.dcIdx = dcIdx
    · subst own
      rw [if_pos rfl, ih]
      split <;> simp_all [nodesIn]
    · simpa [own, Ne.symm own, nodesIn] using ih

namespace DbCluster

variable (cluster : DbCluster)

/-- A datacenter has the configured number of nodes, spread over all racks. -/
def DcAsConfigured (dcIdx : Nat) : Prop :=
  cluster.nDbNodes[dcIdx]?.getD 0 = (nodesIn cluster.nodes dcIdx).length ∧
    ∀ rack < cluster.racksCount, ∃ node ∈ nodesIn cluster.nodes dcIdx, node.rack = rack

/-- Every datacenter that is configured with nodes has them, spread over all racks, and no other
one has nodes. -/
def AsConfigured : Prop :=
  ∀ dcIdx, if 0 < cluster.nDbNodes[dcIdx]?.getD 0 then cluster.DcAsConfigured dcIdx
    else nodesIn cluster.nodes dcIdx = []

/-- The cluster with the check in its default mode. -/
def perInitialConfig : DbCluster :=
  { cluster with capacityErrorsCheckMode := "per-initial_config" }

variable {cluster}

lemma checkDc_iff (dcIdx : Nat) :
    cluster.checkDc dcIdx (nodesIn cluster.nodes dcIdx) = true ↔ cluster.DcAsConfigured dcIdx := by
  have inside : ((nodesIn cluster.nodes dcIdx).map DbNode.rack).toFinset ⊆
      Finset.range cluster.racksCount := by
    intro rack listed
    obtain ⟨node, own, rfl⟩ := mem_map.mp (mem_toFinset.mp listed)
    exact Finset.mem_range.mpr (cluster.racked node (mem_of_mem_filter own))
  have all : ((nodesIn cluster.nodes dcIdx).map DbNode.rack).dedup.length = cluster.racksCount ↔
      ∀ rack < cluster.racksCount, ∃ node ∈ nodesIn cluster.nodes dcIdx, node.rack = rack := by
    rw [← card_toFinset]
    constructor
    · intro counted rack below
      have whole := Finset.eq_of_subset_of_card_le inside (by simp [counted])
      exact mem_map.mp (mem_toFinset.mp (whole ▸ Finset.mem_range.mpr below))
    · intro spread
      have whole := inside.antisymm fun rack below =>
        mem_toFinset.mpr (mem_map.mpr (spread rack (Finset.mem_range.mp below)))
      rw [whole, Finset.card_range]
  rw [checkDc, Bool.and_eq_true, beq_iff_eq, beq_iff_eq, all, DcAsConfigured, and_comm]

lemma checked_iff : cluster.perInitialConfig.checkClusterLayout = .ok true ↔
    ∀ dcIdx, nodesIn cluster.nodes dcIdx ≠ [] → cluster.DcAsConfigured dcIdx := by
  rw [checkClusterLayout, if_pos (.inr rfl), Except.ok.injEq, all_eq_true]
  constructor
  · intro all dcIdx some
    have entry := (Dict.mem_entries_iff _ dcIdx _).mpr
      ((get_groupNodesByDcIdx cluster.nodes dcIdx).trans (if_neg some))
    exact (checkDc_iff dcIdx).mp (all _ entry)
  · rintro all ⟨dcIdx, nodesInDc⟩ entry
    have found := (Dict.mem_entries_iff _ _ _).mp entry
    rw [get_groupNodesByDcIdx] at found
    split at found
    · cases found
    · rename_i some
      cases found
      exact (checkDc_iff dcIdx).mpr (all dcIdx some)

lemma asConfigured_iff : cluster.AsConfigured ↔
    (∀ dcIdx, nodesIn cluster.nodes dcIdx ≠ [] → cluster.DcAsConfigured dcIdx) ∧
      ∀ dcIdx, 0 < cluster.nDbNodes[dcIdx]?.getD 0 → nodesIn cluster.nodes dcIdx ≠ [] := by
  constructor
  · intro all
    refine ⟨fun dcIdx some => ?_, fun dcIdx positive empty => ?_⟩
    · by_contra differs
      have own := all dcIdx
      split at own
      · exact differs own
      · exact some own
    · have own := all dcIdx
      rw [if_pos positive, DcAsConfigured, empty, length_nil] at own
      omega
  · rintro ⟨present, complete⟩ dcIdx
    split
    · rename_i positive
      exact present dcIdx (complete dcIdx positive)
    · rename_i unset
      by_contra some
      have counted := (present dcIdx some).1
      have held := length_pos_iff.mpr some
      omega

/-- The check is right exactly if every datacenter that is configured with nodes has some, or one
that has nodes is not as configured. -/
theorem layout_right_iff (cluster : DbCluster) :
    (cluster.perInitialConfig.checkClusterLayout = .ok true ↔ cluster.AsConfigured) ↔
      (∀ dcIdx, 0 < cluster.nDbNodes[dcIdx]?.getD 0 → nodesIn cluster.nodes dcIdx ≠ []) ∨
        ∃ dcIdx, nodesIn cluster.nodes dcIdx ≠ [] ∧ ¬ cluster.DcAsConfigured dcIdx := by
  rw [checked_iff, asConfigured_iff]
  constructor
  · intro right
    by_cases present : ∀ dcIdx, nodesIn cluster.nodes dcIdx ≠ [] → cluster.DcAsConfigured dcIdx
    · exact .inl (right.mp present).2
    · exact .inr (by simpa using present)
  · rintro (complete | ⟨dcIdx, some, differs⟩)
    · exact ⟨fun present => ⟨present, complete⟩, And.left⟩
    · exact ⟨fun present => absurd (present dcIdx some) differs, And.left⟩

/-- Two datacenters are configured, and only the first has its node. -/
def oneDcLeft : DbCluster := ⟨[⟨0, 0⟩], 1, [1, 1], "", by decide⟩

theorem missing_dc_passes :
    oneDcLeft.checkClusterLayout = .ok true ∧ ¬ oneDcLeft.AsConfigured := by
  refine ⟨rfl, fun all => ?_⟩
  have second := (asConfigured_iff.mp all).2 1 (by decide)
  exact second rfl

end DbCluster

end Sct.Utils
