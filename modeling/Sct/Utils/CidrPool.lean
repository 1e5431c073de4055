import Sct.Lib.Cidr

/-!
# The CIDR pool

`CidrPoolManager` of `sdcm/utils/cidr_pool.py`. Networks are given as parsed by
`ipaddress.ip_network`, of either version; a text it refuses raises before the pool is looked at
and is left out. The random choice among the available blocks is a number given to the call. The
log lines and the texts of the errors are left out.
-/

namespace Sct.Utils

open Sct.Cidr (Block)

inductive IpNetwork where
  | v4 (block : Block 32)
  | v6 (block : Block 128)
  deriving DecidableEq

namespace IpNetwork

def subnets : IpNetwork → Nat → Option (List IpNetwork)
  | v4 block, newPrefixLength => (block.subnets newPrefixLength).map (List.map v4)
  | v6 block, newPrefixLength => (block.subnets newPrefixLength).map (List.map v6)

def Overlaps : IpNetwork → IpNetwork → Prop
  | v4 one, v4 other => one.Overlaps other
  | v6 one, v6 other => one.Overlaps other
  | _, _ => False

instance : (one other : IpNetwork) → Decidable (one.Overlaps other)
  | v4 one, v4 other => inferInstanceAs (Decidable (one.Overlaps other))
  | v6 one, v6 other => inferInstanceAs (Decidable (one.Overlaps other))
  | v4 _, v6 _ => isFalse id
  | v6 _, v4 _ => isFalse id

/-- A network is a block of a length inside another. -/
def IsBlockOf (length : Nat) : IpNetwork → IpNetwork → Prop
  | v4 base, v4 block => block.length = length ∧ block.Inside base
  | v6 base, v6 block => block.length = length ∧ block.Inside base
  | _, _ => False

end IpNetwork

inductive CidrAllocationError where
  | invalidSubnet
  | exhausted (cidrBase : IpNetwork) (cloudProvider region : String)
  deriving DecidableEq

/-- A cloud region: the networks in use there, and whether asking for its peering routes answers
with them or raises. -/
structure Region where
  name : String
  inUse : List IpNetwork
  /-- `get_vpc_peering_routes` or `get_peering_routes` returns. -/
  answers : Bool

structure CidrPoolManager where
  cidrBase : IpNetwork
  subnetSize : Nat
  reservedRanges : List IpNetwork

namespace CidrPoolManager

def scyllaCloudCidrBase : IpNetwork :=
  .v4 ⟨172 * 2 ^ 24 + 31 * 2 ^ 16, 16, by decide, by decide, by decide⟩

def defaultSubnetSize : Nat := 24

/-- `RESERVED_RANGES`, 172.31.0.0/24. -/
def defaultReservedRanges : List IpNetwork :=
  [.v4 ⟨172 * 2 ^ 24 + 31 * 2 ^ 16, 24, by decide, by decide, by decide⟩]

/-- `__init__`; a size of zero counts as none. -/
def init (cidrBase : Option IpNetwork) (subnetSize : Option Nat) : CidrPoolManager where
  cidrBase := cidrBase.getD scyllaCloudCidrBase
  subnetSize := match subnetSize with
    | some (size + 1) => size + 1
    | _ => defaultSubnetSize
  reservedRanges := defaultReservedRanges

def generateNextCidr (manager : CidrPoolManager) (usedCidrs : List IpNetwork) (draw : Nat) :
    Except CidrAllocationError (Option IpNetwork) :=
  match manager.cidrBase.subnets manager.subnetSize with
  | none => .error .invalidSubnet
  | some subnets =>
    let usedNetworks := usedCidrs ++ manager.reservedRanges
    let availableSubnets := subnets.filter fun subnet => subnet ∉ usedNetworks
    .ok (availableSubnets[draw % availableSubnets.length]?)

/-- The used networks `get_available_cidr` finds out about: none when the provider is not in its
map or the discovery raises. -/
def discovered (cloudProvider : String) (region : Region) : List IpNetwork :=
  if cloudProvider.toLower = "aws" ∨ cloudProvider.toLower = "gce" then
    if region.answers then region.inUse else []
  else []

def getAvailableCidr (manager : CidrPoolManager) (cloudProvider : String) (region : Region)
    (draw : Nat) : Except CidrAllocationError IpNetwork := do
  let availableCidr ← manager.generateNextCidr (discovered cloudProvider region) draw
  match availableCidr with
  | some cidr => pure cidr
  | none => throw (.exhausted manager.cidrBase cloudProvider region.name)

end CidrPoolManager

end Sct.Utils
