import Sct.Utils.CidrPool

/-!
# What the CIDR pool hands out

A block is available to the pool unless it is one of the networks it knows. A block that merely
overlaps one of them is handed out, so the pool is safe exactly when every block that overlaps a
network in use or reserved is itself a network it knows. Exhaustion is never reported too early.
-/

open List

namespace Sct.Utils

namespace IpNetwork

lemma overlaps_self (network : IpNetwork) : network.Overlaps network := by
  cases network with
  | v4 block => exact block.overlaps_self
  | v6 block => exact block.overlaps_self

lemma mem_subnets {base block : IpNetwork} {length : Nat} {blocks : List IpNetwork}
    (cut : base.subnets length = some blocks) (inside : IsBlockOf length base block) :
    block ∈ blocks := by
  cases base with
  | v4 base =>
    cases block with
    | v4 block =>
      obtain ⟨rfl, inside⟩ := inside
      obtain ⟨parts, parted, rfl⟩ := Option.map_eq_some_iff.mp cut
      exact mem_map_of_mem (Cidr.Block.mem_subnets_of_inside parted inside)
    | v6 block => exact inside.elim
  | v6 base =>
    cases block with
    | v4 block => exact inside.elim
    | v6 block =>
      obtain ⟨rfl, inside⟩ := inside
      obtain ⟨parts, parted, rfl⟩ := Option.map_eq_some_iff.mp cut
      exact mem_map_of_mem (Cidr.Block.mem_subnets_of_inside parted inside)

end IpNetwork

namespace CidrPoolManager

variable (manager : CidrPoolManager)

def blocks : List IpNetwork := (manager.cidrBase.subnets manager.subnetSize).getD []

def known (cloudProvider : String) (region : Region) : List IpNetwork :=
  discovered cloudProvider region ++ manager.reservedRanges

def available (cloudProvider : String) (region : Region) : List IpNetwork :=
  manager.blocks.filter fun block => block ∉ manager.known cloudProvider region

variable {manager}

lemma getAvailableCidr_invalid (refused : manager.cidrBase.subnets manager.subnetSize = none)
    (cloudProvider : String) (region : Region) (draw : Nat) :
    manager.getAvailableCidr cloudProvider region draw = .error .invalidSubnet := by
  rw [getAvailableCidr, generateNextCidr, refused]
  rfl

lemma getAvailableCidr_drawn {subnets : List IpNetwork}
    (cut : manager.cidrBase.subnets manager.subnetSize = some subnets)
    (cloudProvider : String) (region : Region) (draw : Nat) :
    manager.getAvailableCidr cloudProvider region draw =
      match (manager.available cloudProvider region)[
          draw % (manager.available cloudProvider region).length]? with
      | some cidr => .ok cidr
      | none => .error (.exhausted manager.cidrBase cloudProvider region.name) := by
  rw [available, blocks, known, getAvailableCidr, generateNextCidr, cut]
  rfl

variable {cloudProvider : String} {region : Region} {network : IpNetwork} {draw : Nat}

lemma mem_available_of_ok
    (returned : manager.getAvailableCidr cloudProvider region draw = .ok network) :
    network ∈ manager.available cloudProvider region := by
  cases cut : manager.cidrBase.subnets manager.subnetSize with
  | none =>
    rw [getAvailableCidr_invalid cut] at returned
    cases returned
  | some subnets =>
    rw [getAvailableCidr_drawn cut] at returned
    split at returned
    · rename_i drawn
      obtain rfl := Except.ok.inj returned
      exact mem_of_getElem? drawn
    · cases returned

lemma exists_ok_of_mem_available (free : network ∈ manager.available cloudProvider region) :
    ∃ draw, manager.getAvailableCidr cloudProvider region draw = .ok network := by
  cases cut : manager.cidrBase.subnets manager.subnetSize with
  | none =>
    rw [available, blocks, cut] at free
    cases free
  | some subnets =>
    obtain ⟨draw, below, drawn⟩ := mem_iff_getElem.mp free
    refine ⟨draw, ?_⟩
    rw [getAvailableCidr_drawn cut, Nat.mod_eq_of_lt below, getElem?_eq_getElem below, drawn]

lemma known_of_exhausted {cidrBase : IpNetwork} {provider name : String}
    (reported : manager.getAvailableCidr cloudProvider region draw =
      .error (.exhausted cidrBase provider name)) :
    ∃ subnets, manager.cidrBase.subnets manager.subnetSize = some subnets ∧
      ∀ block ∈ subnets, block ∈ manager.known cloudProvider region := by
  cases cut : manager.cidrBase.subnets manager.subnetSize with
  | none =>
    rw [getAvailableCidr_invalid cut] at reported
    cases reported
  | some subnets =>
    refine ⟨subnets, rfl, fun block listed => ?_⟩
    rw [getAvailableCidr_drawn cut] at reported
    split at reported
    · cases reported
    · rename_i none
      have empty : manager.available cloudProvider region = [] := by
        by_contra some
        have below := Nat.mod_lt draw (length_pos_iff.mpr some)
        rw [getElem?_eq_getElem below] at none
        cases none
      have taken := filter_eq_nil_iff.mp empty block (by rw [blocks, cut]; exact listed)
      simpa using taken

/-! ## Safety -/

def taken (manager : CidrPoolManager) (region : Region) : List IpNetwork :=
  region.inUse ++ manager.reservedRanges

lemma known_subset_taken (cloudProvider : String) (region : Region) :
    manager.known cloudProvider region ⊆ manager.taken region := by
  intro network listed
  rw [known, mem_append] at listed
  rw [taken, mem_append]
  refine listed.imp_left fun found => ?_
  unfold discovered at found
  split_ifs at found
  · exact found
  · cases found
  · cases found

/-- What is returned overlaps no network in use or reserved, and exhaustion is reported only when
every block of the size in the pool overlaps one. -/
structure Safe (manager : CidrPoolManager) (cloudProvider : String) (region : Region) : Prop where
  returned : ∀ draw network, manager.getAvailableCidr cloudProvider region draw = .ok network →
    ∀ used ∈ manager.taken region, ¬ network.Overlaps used
  exhausted : ∀ draw cidrBase provider name,
    manager.getAvailableCidr cloudProvider region draw =
      .error (.exhausted cidrBase provider name) →
    ∀ block, IpNetwork.IsBlockOf manager.subnetSize manager.cidrBase block →
      ∃ used ∈ manager.taken region, block.Overlaps used

/-- The pool is safe exactly when every block that overlaps a network in use or reserved is itself
a network the pool knows as used. -/
theorem safe_iff (manager : CidrPoolManager) (cloudProvider : String) (region : Region) :
    manager.Safe cloudProvider region ↔
      ∀ block ∈ manager.blocks, ∀ used ∈ manager.taken region, block.Overlaps used →
        block ∈ manager.known cloudProvider region := by
  constructor
  · intro safe block listed used held overlaps
    by_contra unknown
    have free : block ∈ manager.available cloudProvider region := by
      rw [available, mem_filter]
      exact ⟨listed, by simpa using unknown⟩
    obtain ⟨draw, returned⟩ := exists_ok_of_mem_available free
    exact safe.returned draw block returned used held overlaps
  · intro whole
    constructor
    · intro draw network returned used held overlaps
      have free := mem_available_of_ok returned
      rw [available, mem_filter] at free
      have unknown : network ∉ manager.known cloudProvider region := by simpa using free.2
      exact unknown (whole network free.1 used held overlaps)
    · intro draw cidrBase provider name reported block inside
      obtain ⟨subnets, cut, all⟩ := known_of_exhausted reported
      have used := all block (IpNetwork.mem_subnets cut inside)
      exact ⟨block, known_subset_taken cloudProvider region used, block.overlaps_self⟩

def halfUsedRegion : Region where
  name := "us-east-1"
  inUse := [.v4 ⟨172 * 2 ^ 24 + 31 * 2 ^ 16 + 2 ^ 8, 25, by decide, by decide, by decide⟩]
  answers := true

lemma secondBlock_length : 24 ≤ 32 := by decide

def secondBlock : IpNetwork :=
  .v4 ⟨172 * 2 ^ 24 + 31 * 2 ^ 16 + 2 ^ 8, 24, secondBlock_length, by decide, by decide⟩

/-- The default pool hands out 172.31.1.0/24 although half of it is in use. -/
theorem halfUsedRegion_not_safe :
    (init none none).getAvailableCidr "aws" halfUsedRegion 0 = .ok secondBlock ∧
      ¬ (init none none).Safe "aws" halfUsedRegion := by
  have returned : (init none none).getAvailableCidr "aws" halfUsedRegion 0 = .ok secondBlock := by
    decide +kernel
  refine ⟨returned, fun safe => ?_⟩
  exact safe.returned 0 secondBlock returned _ (mem_append_left _ (mem_singleton_self _))
    (by decide)

end CidrPoolManager

end Sct.Utils
