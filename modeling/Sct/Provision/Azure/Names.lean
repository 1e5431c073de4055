import Sct.Lib.Dict
import Sct.Lib.Words

/-!
# Names of the network resources of Azure VMs

`get_nic_name`, `get_nic_index` and `get_all` of
`sdcm/provision/azure/network_interface_provider.py`, and `_get_ip_name` of `ip_provider.py`. What
Python takes for digits is a parameter. `int` raises for a few digits that are not decimal: those
are left out.
-/

namespace Sct.AzureNames

/-- `isdigit` of a character and `int` of a text of digits. -/
structure PyDigits where
  isDigit : Char → Bool
  int : List Char → Nat
  decimal : ∀ index : Nat, ∀ char ∈ (toString index).toList, isDigit char = true
  letter : isDigit 'c' = false
  int_toString : ∀ index : Nat, int (toString index).toList = index

def getNicName (name : String) (index : Nat) : String :=
  if index = 0 then name ++ "-nic" else name ++ "-nic" ++ toString index

def getNicIndex (digits : PyDigits) (nicName vmName : String) : Option Nat :=
  let start := vmName ++ "-nic"
  if startsWith nicName start then
    let suffix := nicName.toList.drop start.toList.length
    if suffix = [] then some 0
    else if suffix.all digits.isDigit then some (digits.int suffix) else none
  else none

def getAll {α : Type} (digits : PyDigits) (cache : Dict String α) (name : String) : List α :=
  let nics := cache.entries.filterMap fun (nicName, nic) =>
    (getNicIndex digits nicName name).map fun index => (index, nic)
  (nics.mergeSort fun left right => left.1 ≤ right.1).map Prod.snd

inductive IpVersion where
  | ipv4
  | ipv6
  deriving DecidableEq, Repr

def IpVersion.lower : IpVersion → String
  | ipv4 => "ipv4"
  | ipv6 => "ipv6"

def getIpName (name : String) (version : IpVersion) (index : Nat) : String :=
  if index = 0 then name ++ "-" ++ version.lower
  else name ++ "-nic" ++ toString index ++ "-" ++ version.lower

end Sct.AzureNames
