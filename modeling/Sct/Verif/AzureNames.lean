import Sct.Lib.Search
import Sct.Provision.Azure.Names

/-!
# Which names of network resources meet

A NIC name ends in `-nic` and digits, so it is read back in one way only: NIC names never meet, and
a VM is given its own NICs. A public IP of a secondary NIC is named after the NIC. It has the name
of the first public IP of a VM that is called like the NIC, and names meet in no other way.
-/

open List

namespace Sct.AzureNames

variable {digits : PyDigits} {name other : String} {index place : Nat}

def suffix (index : Nat) : List Char := if index = 0 then [] else (toString index).toList

lemma toList_getNicName (name : String) (index : Nat) :
    (getNicName name index).toList = name.toList ++ "-nic".toList ++ suffix index := by
  unfold getNicName suffix
  split <;> simp

lemma suffix_digits (digits : PyDigits) (index : Nat) :
    ∀ char ∈ suffix index, digits.isDigit char = true := by
  unfold suffix
  split
  · exact fun _ listed => nomatch listed
  · exact digits.decimal index

lemma suffix_injective : Function.Injective suffix := by
  intro index place same
  have written (index : Nat) : (toString index).toList ≠ [] := by
    rw [Nat.toString_eq_ofList_toDigits, String.toList_ofList]
    exact Nat.toDigits_ne_nil
  unfold suffix at same
  split at same <;> split at same
  · omega
  · exact absurd same.symm (written place)
  · exact absurd same (written index)
  · exact toString_injective (String.toList_inj.mp same)

/-- Digits behind the last `-nic` can be told from what is before it. -/
lemma split_at_nic {left right first second : List Char}
    (firstDigits : ∀ char ∈ first, digits.isDigit char = true)
    (secondDigits : ∀ char ∈ second, digits.isDigit char = true)
    (same : left ++ "-nic".toList ++ first = right ++ "-nic".toList ++ second) :
    left = right ∧ first = second := by
  have mirrored := congrArg List.reverse same
  simp only [reverse_append] at mirrored
  have apart : first.reverse ++ 'c' :: ('i' :: 'n' :: '-' :: left.reverse) =
      second.reverse ++ 'c' :: ('i' :: 'n' :: '-' :: right.reverse) := mirrored
  obtain ⟨ends, -, fronts⟩ := Scan.run_append_inj
    (fun char listed => firstDigits char (mem_reverse.mp listed))
    (fun char listed => secondDigits char (mem_reverse.mp listed))
    digits.letter digits.letter apart
  simp only [List.cons.injEq, true_and] at fronts
  exact ⟨reverse_inj.mp fronts, reverse_inj.mp ends⟩

def ascii : PyDigits where
  isDigit := Char.isDigit
  int text := Nat.ofDigitChars 10 text 0
  decimal index char listed := by
    rw [Nat.toString_eq_ofList_toDigits, String.toList_ofList] at listed
    exact Nat.isDigit_of_mem_toDigits (by decide) (by decide) listed
  letter := rfl
  int_toString index := by
    rw [Nat.toString_eq_ofList_toDigits, String.toList_ofList, Nat.ofDigitChars_ten_toDigits]

lemma getNicName_inj (same : getNicName name index = getNicName other place) :
    name = other ∧ index = place := by
  have texts := congrArg String.toList same
  rw [toList_getNicName, toList_getNicName] at texts
  obtain ⟨names, suffixes⟩ :=
    split_at_nic (suffix_digits ascii index) (suffix_digits ascii place) texts
  exact ⟨String.toList_inj.mp names, suffix_injective suffixes⟩

lemma getNicIndex_getNicName (digits : PyDigits) (name : String) (index : Nat) :
    getNicIndex digits (getNicName name index) name = some index := by
  have starts : startsWith (getNicName name index) (name ++ "-nic") = true := by
    rw [startsWith_iff]
    exact ⟨suffix index, by rw [toList_getNicName, String.toList_append]⟩
  have left : (getNicName name index).toList.drop (name ++ "-nic").toList.length = suffix index := by
    rw [toList_getNicName, String.toList_append, drop_left]
  unfold getNicIndex
  simp only [starts, left, ↓reduceIte, all_eq_true.mpr (suffix_digits digits index)]
  unfold suffix
  split
  · rename_i zero
    rw [if_pos rfl, zero]
  · rename_i positive
    have written : (toString index).toList ≠ [] := fun empty =>
      positive (suffix_injective (by rw [suffix, if_neg positive, empty]; rfl))
    rw [if_neg written, digits.int_toString]

/-- The NIC that is found for a VM is its own. -/
lemma getNicName_of_getNicIndex
    (found : getNicIndex digits (getNicName other place) name = some index) :
    other = name ∧ place = index := by
  have read := found
  unfold getNicIndex at read
  by_cases starts : startsWith (getNicName other place) (name ++ "-nic") = true
  · obtain ⟨rest, shape⟩ := startsWith_iff.mp starts
    have accepted : ∀ char ∈ rest, digits.isDigit char = true := by
      rw [if_pos starts, shape, drop_left] at read
      dsimp only at read
      split at read
      · rename_i empty
        simp [empty]
      · split at read
        · rename_i all
          exact all_eq_true.mp all
        · cases read
    rw [toList_getNicName, String.toList_append] at shape
    obtain ⟨names, -⟩ := split_at_nic (suffix_digits digits place) accepted shape
    have same : other = name := String.toList_inj.mp names
    rw [same, getNicIndex_getNicName] at found
    exact ⟨same, Option.some.inj found⟩
  · rw [if_neg starts] at read
    cases read

/-! ## The names of a set of VMs -/

/-- The VMs, by name, with their numbers of interfaces. -/
abbrev Plan := Dict String Nat

def Plan.HasNic (plan : Plan) (name : String) (index : Nat) : Prop :=
  ∃ count, plan.get name = some count ∧ index < count

/-- The cache holds the NICs of the VMs and no others. -/
def Caches {α : Type} (plan : Plan) (cache : Dict String α) : Prop :=
  ∀ key, key ∈ cache ↔ ∃ name index, plan.HasNic name index ∧ key = getNicName name index

/-- No two of the generated names are equal, and a VM is given its NICs in the order of their
indices. -/
structure NamesApart (digits : PyDigits) (plan : Plan) : Prop where
  nics : ∀ name index other place, plan.HasNic name index → plan.HasNic other place →
    getNicName name index = getNicName other place → name = other ∧ index = place
  ips : ∀ name index version other place otherVersion, plan.HasNic name index →
    plan.HasNic other place → getIpName name version index = getIpName other otherVersion place →
      name = other ∧ index = place ∧ version = otherVersion
  kinds : ∀ name index other place version, plan.HasNic name index → plan.HasNic other place →
    getNicName name index ≠ getIpName other version place
  listed : ∀ (α : Type) (cache : Dict String α), Caches plan cache →
    ∀ name count, plan.get name = some count →
      (getAll digits cache name).map some =
        (List.range count).map fun index => cache.get (getNicName name index)

section Listed

variable {α : Type} {plan : Plan} {cache : Dict String α} (caches : Caches plan cache)
include caches

lemma key_of_getNicIndex {entry : String × α} (inCache : entry ∈ cache.entries)
    (found : getNicIndex digits entry.1 name = some index) :
    entry.1 = getNicName name index ∧ plan.HasNic name index := by
  obtain ⟨other, place, has, key⟩ := (caches entry.1).mp (mem_map_of_mem inCache)
  rw [key] at found
  obtain ⟨rfl, rfl⟩ := getNicName_of_getNicIndex found
  exact ⟨key, has⟩

variable {count : Nat}

/-- The indices that are found are those of the VM, each once. -/
lemma indices_perm (planned : plan.get name = some count) :
    (cache.entries.filterMap fun entry => getNicIndex digits entry.1 name).Perm
      (List.range count) := by
  have once : (cache.entries.filterMap fun entry => getNicIndex digits entry.1 name).Nodup := by
    refine pairwise_filterMap.mpr
      (List.Pairwise.imp_of_mem ?_ (pairwise_map.mp cache.distinct))
    intro first second firstIn secondIn differ index found place also equal
    rw [(key_of_getNicIndex caches firstIn found).1, equal,
      (key_of_getNicIndex caches secondIn also).1] at differ
    exact differ rfl
  refine (perm_ext_iff_of_nodup once nodup_range).mpr fun index => ?_
  rw [mem_filterMap, mem_range]
  constructor
  · rintro ⟨entry, inCache, found⟩
    obtain ⟨-, number, given, below⟩ := key_of_getNicIndex caches inCache found
    rw [planned] at given
    cases given
    exact below
  · intro below
    have key : getNicName name index ∈ cache :=
      (caches _).mpr ⟨name, index, ⟨count, planned, below⟩, rfl⟩
    obtain ⟨nic, found⟩ := (cache.mem_iff _).mp key
    exact ⟨_, (cache.mem_entries_iff _ _).mpr found, getNicIndex_getNicName digits name index⟩

lemma getAll_eq (planned : plan.get name = some count) :
    (getAll digits cache name).map some =
      (List.range count).map fun index => cache.get (getNicName name index) := by
  unfold getAll
  extract_lets nics
  have known : ∀ nic ∈ nics, cache.get (getNicName name nic.1) = some nic.2 := by
    intro nic listed
    obtain ⟨entry, inCache, read⟩ := mem_filterMap.mp listed
    obtain ⟨index, found, rfl⟩ := Option.map_eq_some_iff.mp read
    rw [← (key_of_getNicIndex caches inCache found).1]
    exact (cache.mem_entries_iff _ _).mp inCache
  have indices : nics.map Prod.fst =
      cache.entries.filterMap fun entry => getNicIndex digits entry.1 name := by
    rw [map_filterMap]
    apply filterMap_congr
    intro entry _
    rw [Option.map_map]
    exact Option.map_id'
  have arranged := mergeSort_perm nics fun left right => left.1 ≤ right.1
  have sorted : (nics.mergeSort fun left right => left.1 ≤ right.1).map Prod.fst =
      List.range count := by
    apply List.Perm.eq_of_pairwise (fun _ _ _ _ below above => Nat.le_antisymm below above)
    · have trans (a b c : Nat × α) (first : decide (a.1 ≤ b.1) = true)
          (second : decide (b.1 ≤ c.1) = true) : decide (a.1 ≤ c.1) = true :=
        decide_eq_true (Nat.le_trans (of_decide_eq_true first) (of_decide_eq_true second))
      have total (a b : Nat × α) : (decide (a.1 ≤ b.1) || decide (b.1 ≤ a.1)) = true := by
        simpa using Nat.le_total a.1 b.1
      have ordered := pairwise_mergeSort trans total nics
      exact pairwise_map.mpr (ordered.imp of_decide_eq_true)
    · exact pairwise_le_range
    · exact (arranged.map Prod.fst).trans (indices ▸ indices_perm caches planned)
  rw [← sorted, map_map, map_map]
  apply map_congr_left
  intro nic listed
  exact (known nic (arranged.mem_iff.mp listed)).symm

end Listed

def ipBase (name : String) (index : Nat) : String := if index = 0 then name else getNicName name index

lemma getIpName_eq (name : String) (version : IpVersion) (index : Nat) :
    getIpName name version index = ipBase name index ++ "-" ++ version.lower := by
  unfold getIpName ipBase getNicName
  split <;> rfl

lemma getIpName_inj {version otherVersion : IpVersion}
    (same : getIpName name version index = getIpName other otherVersion place) :
    ipBase name index = ipBase other place ∧ version = otherVersion := by
  have texts := congrArg String.toList same
  simp only [getIpName_eq, String.toList_append] at texts
  have length : version.lower.toList.length = otherVersion.lower.toList.length := by
    cases version <;> cases otherVersion <;> simp [IpVersion.lower]
  obtain ⟨fronts, versions⟩ := append_inj' texts length
  refine ⟨String.toList_inj.mp (append_cancel_right fronts), ?_⟩
  cases version <;> cases otherVersion <;> simp [IpVersion.lower] at versions ⊢

lemma getNicName_ne_getIpName {version : IpVersion} :
    getNicName name index ≠ getIpName other version place := by
  intro same
  have mirrored := congrArg (fun text => text.toList.reverse) same
  simp only [toList_getNicName, getIpName_eq, String.toList_append, reverse_append] at mirrored
  have clash (digit : Char) (isDigit : Char.isDigit digit = true) {front rest : List Char}
      (same : (suffix index).reverse ++ 'c' :: front = [digit] ++ 'v' :: rest) : False := by
    have first : ∀ char ∈ (suffix index).reverse, Char.isDigit char = true :=
      fun char listed => suffix_digits ascii index char (mem_reverse.mp listed)
    have second : ∀ char ∈ [digit], Char.isDigit char = true := by simpa using isDigit
    have ends := (Scan.run_append_inj first second rfl rfl same).2.1
    cases ends
  cases version with
  | ipv4 => exact clash '4' rfl mirrored
  | ipv6 => exact clash '6' rfl mirrored

/-- The names of a set of VMs are apart exactly if no VM is named like a secondary NIC. -/
theorem names_apart_iff (digits : PyDigits) (plan : Plan) : NamesApart digits plan ↔
    ∀ name index, plan.HasNic name index → index ≠ 0 → ¬ plan.HasNic (getNicName name index) 0 := by
  constructor
  · intro apart name index has secondary named
    have meet : getIpName (getNicName name index) .ipv4 0 = getIpName name .ipv4 index := by
      rw [getIpName_eq, getIpName_eq, ipBase, ipBase, if_pos rfl, if_neg secondary]
    exact secondary (apart.ips _ _ _ _ _ _ named has meet).2.1.symm
  · intro unlike
    refine ⟨fun _ _ _ _ _ _ => getNicName_inj, ?_, fun _ _ _ _ _ _ _ => getNicName_ne_getIpName,
      fun _ _ caches _ _ => getAll_eq caches⟩
    intro name index version other place otherVersion has also same
    obtain ⟨bases, versions⟩ := getIpName_inj same
    unfold ipBase at bases
    by_cases first : index = 0 <;> by_cases second : place = 0
    · rw [if_pos first, if_pos second] at bases
      exact ⟨bases, by omega, versions⟩
    · rw [if_pos first, if_neg second] at bases
      exact absurd (bases ▸ first ▸ has) (unlike other place also second)
    · rw [if_neg first, if_pos second] at bases
      exact absurd (bases ▸ second ▸ also) (unlike name index has first)
    · rw [if_neg first, if_neg second] at bases
      obtain ⟨names, indices⟩ := getNicName_inj bases
      exact ⟨names, indices, versions⟩

/-- The second interface of `foo` and the first of `foo-nic1` have one public IP. -/
theorem secondary_ip_meets :
    getIpName "foo" .ipv4 1 = "foo-nic1-ipv4" ∧ getIpName "foo-nic1" .ipv4 0 = "foo-nic1-ipv4" := by
  decide

end Sct.AzureNames
