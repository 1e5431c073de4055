import Mathlib.Data.List.Basic
import Mathlib.Data.List.Induction
import Mathlib.Data.List.Nodup

/-!
# Dictionaries

A Python `dict`: entries in the order their keys were first set, no key twice. Setting a key
that is present keeps its place.
-/

open List

namespace Sct

/-- A dictionary. -/
structure Dict (κ α : Type) where
  entries : List (κ × α)
  distinct : (entries.map Prod.fst).Nodup

namespace Dict

variable {κ α : Type}

/-- `{}`. -/
def empty : Dict κ α := ⟨[], nodup_nil⟩

/-- `list(dict)`. -/
def keys (dict : Dict κ α) : List κ := dict.entries.map Prod.fst

variable [DecidableEq κ]

/-- The value of the first entry with a key. -/
def lookup (key : κ) : List (κ × α) → Option α
  | [] => none
  | (other, value) :: rest => if other = key then some value else lookup key rest

/-- `dict.get(key)`. -/
def get (dict : Dict κ α) (key : κ) : Option α := lookup key dict.entries

/-- Replace the value of a key, or put a new entry at the end. -/
def assign (key : κ) (value : α) : List (κ × α) → List (κ × α)
  | [] => [(key, value)]
  | (other, old) :: rest =>
    if other = key then (key, value) :: rest else (other, old) :: assign key value rest

lemma keys_assign (key : κ) (value : α) (entries : List (κ × α)) :
    (assign key value entries).map Prod.fst =
      if key ∈ entries.map Prod.fst then entries.map Prod.fst
      else entries.map Prod.fst ++ [key] := by
  induction entries with
  | nil => rfl
  | cons entry rest ih =>
    obtain ⟨other, old⟩ := entry
    by_cases same : other = key
    · simp [assign, same]
    · have differ : key ≠ other := fun equal => same equal.symm
      rw [assign, if_neg same, map_cons, ih]
      by_cases listed : key ∈ rest.map Prod.fst
      · simp [listed]
      · simp [listed, differ]

variable {key : κ} {entries : List (κ × α)}

lemma lookup_eq_none (absent : key ∉ entries.map Prod.fst) : lookup key entries = none := by
  induction entries with
  | nil => rfl
  | cons entry rest ih =>
    rw [map_cons, mem_cons, not_or] at absent
    rw [lookup, if_neg (Ne.symm absent.1), ih absent.2]

/-- `dict[key] = value`. -/
def set (dict : Dict κ α) (key : κ) (value : α) : Dict κ α where
  entries := assign key value dict.entries
  distinct := by
    rw [keys_assign]
    split
    · exact dict.distinct
    · rename_i absent
      exact dict.distinct.append (nodup_singleton key) (by simpa using absent)

/-- `del dict[key]`. -/
def erase (dict : Dict κ α) (key : κ) : Dict κ α where
  entries := dict.entries.filter fun entry => decide (entry.1 ≠ key)
  distinct := dict.distinct.sublist (filter_sublist.map Prod.fst)

/-- Set the keys of some entries, one after another. -/
def setAll (dict : Dict κ α) (entries : List (κ × α)) : Dict κ α :=
  entries.foldl (fun dict entry => dict.set entry.1 entry.2) dict

/-- `dict.update(other)`. -/
def update (dict other : Dict κ α) : Dict κ α := dict.setAll other.entries

/-- `{key: value for key, value in dict.items() if keep(value)}`. -/
def filterValues (keep : α → Bool) (dict : Dict κ α) : Dict κ α where
  entries := dict.entries.filter fun entry => keep entry.2
  distinct := dict.distinct.sublist (filter_sublist.map Prod.fst)

/-- `{key: change(value) for key, value in dict.items()}`. -/
def mapValues {β : Type} (change : α → β) (dict : Dict κ α) : Dict κ β where
  entries := dict.entries.map fun entry => (entry.1, change entry.2)
  distinct := by
    rw [map_map]
    exact dict.distinct

/-- `{key: change(key, value) for key, value in dict.items()}`. -/
def mapEntries {β : Type} (change : κ → α → β) (dict : Dict κ α) : Dict κ β where
  entries := dict.entries.map fun entry => (entry.1, change entry.1 entry.2)
  distinct := by
    rw [map_map]
    exact dict.distinct

/-- `key in dict`. -/
instance : Membership κ (Dict κ α) := ⟨fun dict key => key ∈ dict.keys⟩

instance (key : κ) (dict : Dict κ α) : Decidable (key ∈ dict) :=
  inferInstanceAs (Decidable (key ∈ dict.keys))

lemma lookup_assign (key other : κ) (value : α) (entries : List (κ × α)) :
    lookup other (assign key value entries) =
      if other = key then some value else lookup other entries := by
  induction entries with
  | nil => simp [assign, lookup, eq_comm]
  | cons entry rest ih =>
    obtain ⟨present, old⟩ := entry
    by_cases same : present = key
    · subst same
      by_cases asked : present = other
      · simp [assign, lookup, asked]
      · simp [assign, lookup, asked, Ne.symm asked]
    · rw [assign, if_neg same, lookup, lookup, ih]
      by_cases asked : present = other
      · subst asked
        simp [same]
      · simp [asked]

lemma get_set (dict : Dict κ α) (key other : κ) (value : α) :
    (dict.set key value).get other = if other = key then some value else dict.get other :=
  lookup_assign key other value dict.entries

@[simp]
lemma get_set_self (dict : Dict κ α) (key : κ) (value : α) :
    (dict.set key value).get key = some value := by
  rw [get_set, if_pos rfl]

lemma get_set_of_ne (dict : Dict κ α) {other : κ} (value : α) (differ : other ≠ key) :
    (dict.set key value).get other = dict.get other := by
  rw [get_set, if_neg differ]

lemma lookup_filter (key other : κ) (entries : List (κ × α)) :
    lookup other (entries.filter fun entry => decide (entry.1 ≠ key)) =
      if other = key then none else lookup other entries := by
  induction entries with
  | nil => simp [lookup]
  | cons entry rest ih =>
    obtain ⟨present, value⟩ := entry
    by_cases removed : present = key
    · subst removed
      rw [filter_cons_of_neg (by simp), ih, lookup]
      by_cases asked : present = other
      · simp [asked]
      · simp [asked, Ne.symm asked]
    · rw [filter_cons_of_pos (by simpa using removed), lookup, lookup, ih]
      by_cases asked : present = other
      · subst asked
        simp [removed]
      · simp [asked]

lemma get_erase (dict : Dict κ α) (key other : κ) :
    (dict.erase key).get other = if other = key then none else dict.get other :=
  lookup_filter key other dict.entries

lemma erase_set (dict : Dict κ α) (key : κ) (value : α) :
    (dict.set key value).erase key = dict.erase key := by
  have forgotten (entries : List (κ × α)) :
      (assign key value entries).filter (fun entry => decide (entry.1 ≠ key)) =
        entries.filter fun entry => decide (entry.1 ≠ key) := by
    induction entries with
    | nil => simp [assign]
    | cons entry rest ih =>
      obtain ⟨other, old⟩ := entry
      by_cases same : other = key
      · simp [assign, same]
      · rw [assign, if_neg same, filter_cons, filter_cons, ih]
  simp only [erase, set, forgotten]

@[simp]
lemma get_empty (key : κ) : (empty : Dict κ α).get key = none := rfl

lemma mem_iff (dict : Dict κ α) (key : κ) : key ∈ dict ↔ ∃ value, dict.get key = some value := by
  change key ∈ dict.entries.map Prod.fst ↔ ∃ value, lookup key dict.entries = some value
  induction dict.entries with
  | nil => simp [lookup]
  | cons entry rest ih =>
    obtain ⟨other, value⟩ := entry
    by_cases same : other = key
    · simp [lookup, same]
    · have differ : key ≠ other := fun equal => same equal.symm
      simp only [map_cons, mem_cons, lookup, same, if_false, differ, false_or]
      exact ih

lemma notMem_iff (dict : Dict κ α) (key : κ) : key ∉ dict ↔ dict.get key = none := by
  rw [mem_iff, not_exists]
  cases dict.get key <;> simp

lemma mem_iff_lookup (key : κ) (value : α) (distinct : (entries.map Prod.fst).Nodup) :
    (key, value) ∈ entries ↔ lookup key entries = some value := by
  induction entries with
  | nil => simp [lookup]
  | cons entry rest ih =>
    obtain ⟨other, old⟩ := entry
    rw [map_cons, nodup_cons] at distinct
    rw [mem_cons, ih distinct.2, lookup]
    by_cases same : other = key
    · subst same
      have absent : lookup other rest ≠ some value := by
        intro found
        exact distinct.1 (mem_map.mpr ⟨(other, value), (ih distinct.2).mpr found, rfl⟩)
      simp [absent, eq_comm]
    · simp [same, Ne.symm same]

lemma mem_entries_iff (dict : Dict κ α) (key : κ) (value : α) :
    (key, value) ∈ dict.entries ↔ dict.get key = some value :=
  mem_iff_lookup key value dict.distinct

lemma get_setAll (entries : List (κ × α)) (dict : Dict κ α)
    (distinct : (entries.map Prod.fst).Nodup) (key : κ) :
    (dict.setAll entries).get key = (lookup key entries).or (dict.get key) := by
  induction entries generalizing dict with
  | nil => simp [setAll, lookup]
  | cons entry rest ih =>
    obtain ⟨other, value⟩ := entry
    rw [map_cons, nodup_cons] at distinct
    have step : dict.setAll ((other, value) :: rest) = (dict.set other value).setAll rest := rfl
    rw [step, ih _ distinct.2, get_set, lookup]
    by_cases same : other = key
    · subst same
      simp [lookup_eq_none distinct.1]
    · simp [same, Ne.symm same]

/-- An update gives a key the value of the other dictionary, if it has one. -/
lemma get_update (dict other : Dict κ α) (key : κ) :
    (dict.update other).get key = (other.get key).or (dict.get key) :=
  get_setAll other.entries dict other.distinct key

lemma get_filterValues (keep : α → Bool) (dict : Dict κ α) (key : κ) :
    (dict.filterValues keep).get key = (dict.get key).filter keep := by
  have kept (value : α) : (dict.filterValues keep).get key = some value ↔
      dict.get key = some value ∧ keep value = true := by
    rw [← mem_entries_iff, ← mem_entries_iff, filterValues, mem_filter]
  ext value
  rw [kept, Option.filter_eq_some_iff]

variable {β : Type} (change : α → β)

@[simp]
lemma get_mapValues (dict : Dict κ α) (key : κ) :
    (dict.mapValues change).get key = (dict.get key).map change := by
  change lookup key (dict.entries.map _) = (lookup key dict.entries).map change
  induction dict.entries with
  | nil => rfl
  | cons entry rest ih =>
    rw [map_cons, lookup, lookup]
    split
    · rfl
    · exact ih

lemma get_mapEntries (change : κ → α → β) (dict : Dict κ α) (key : κ) :
    (dict.mapEntries change).get key = (dict.get key).map (change key) := by
  change lookup key (dict.entries.map _) = (lookup key dict.entries).map (change key)
  induction dict.entries with
  | nil => rfl
  | cons entry rest ih =>
    rw [map_cons, lookup, lookup]
    split
    · rename_i found
      rw [found]
      rfl
    · exact ih

lemma mapValues_set (dict : Dict κ α) (key : κ) (value : α) :
    (dict.set key value).mapValues change = (dict.mapValues change).set key (change value) := by
  have written (entries : List (κ × α)) :
      (assign key value entries).map (fun entry => (entry.1, change entry.2)) =
        assign key (change value) (entries.map fun entry => (entry.1, change entry.2)) := by
    induction entries with
    | nil => rfl
    | cons entry rest ih =>
      rw [map_cons, assign, assign]
      split
      · rfl
      · rw [map_cons, ih]
  simp only [mapValues, set, written]

lemma mapValues_erase (dict : Dict κ α) (key : κ) :
    (dict.erase key).mapValues change = (dict.mapValues change).erase key := by
  simp only [mapValues, erase, filter_map]
  rfl

omit [DecidableEq κ] in
lemma mapValues_filterValues (keep : β → Bool) (dict : Dict κ α) :
    (dict.filterValues fun value => keep (change value)).mapValues change =
      (dict.mapValues change).filterValues keep := by
  simp only [mapValues, filterValues, filter_map]
  rfl

/-- A new value that measures as the old one leaves the measures of the values as they are. -/
lemma map_values_set (measure : α → β) (dict : Dict κ α) {old : α} (value : α)
    (held : dict.get key = some old) (same : measure value = measure old) :
    (dict.set key value).entries.map (fun entry => measure entry.2) =
      dict.entries.map fun entry => measure entry.2 := by
  change (assign key value dict.entries).map _ = _
  change lookup key dict.entries = some old at held
  generalize dict.entries = entries at held ⊢
  induction entries with
  | nil => cases held
  | cons entry rest ih =>
    rw [assign]
    rw [lookup] at held
    split at held
    · rename_i found
      cases held
      rw [if_pos found, map_cons, map_cons, same]
    · rename_i other
      rw [if_neg other, map_cons, map_cons, ih held]

lemma entries_set_of_get_none (dict : Dict κ α) (value : α) (absent : dict.get key = none) :
    (dict.set key value).entries = dict.entries ++ [(key, value)] := by
  change assign key value dict.entries = _
  change lookup key dict.entries = none at absent
  generalize dict.entries = entries at absent ⊢
  induction entries with
  | nil => rfl
  | cons entry rest ih =>
    rw [lookup] at absent
    split at absent
    · cases absent
    · rename_i other
      rw [assign, if_neg other, ih absent, cons_append]

lemma entries_setAll_of_fresh (distinct : (entries.map Prod.fst).Nodup) (dict : Dict κ α)
    (fresh : ∀ entry ∈ entries, entry.1 ∉ dict.keys) :
    (dict.setAll entries).entries = dict.entries ++ entries := by
  induction entries generalizing dict with
  | nil => simp [setAll]
  | cons entry rest ih =>
    have apart := nodup_cons.mp distinct
    have absent : dict.get entry.1 = none :=
      (notMem_iff dict entry.1).mp (fresh entry mem_cons_self)
    have placed := entries_set_of_get_none dict entry.2 absent
    have later : ∀ other ∈ rest, other.1 ∉ (dict.set entry.1 entry.2).keys := by
      intro other listed
      have outside := fresh other (mem_cons_of_mem entry listed)
      have differ : other.1 ≠ entry.1 := by
        intro same
        exact apart.1 (same ▸ mem_map_of_mem listed)
      rw [keys, placed, map_append, mem_append]
      simp only [map_cons, map_nil, mem_singleton]
      exact fun held => held.elim outside differ
    change ((dict.set entry.1 entry.2).setAll rest).entries = _
    rw [ih apart.2 (dict.set entry.1 entry.2) later, placed, append_assoc]
    rfl

/-- Entries that agree on their keys, set one after another in an empty dictionary, are its
entries. -/
lemma get_setAll_iff
    (agree : ∀ entry ∈ entries, ∀ other ∈ entries, entry.1 = other.1 → entry = other) (key : κ)
    (value : α) :
    ((empty : Dict κ α).setAll entries).get key = some value ↔ (key, value) ∈ entries := by
  induction entries using List.reverseRecOn with
  | nil => simp [setAll]
  | append_singleton entries entry ih =>
    have step : (empty : Dict κ α).setAll (entries ++ [entry]) =
        ((empty : Dict κ α).setAll entries).set entry.1 entry.2 := by
      rw [setAll, foldl_append]
      rfl
    have before := ih fun first listed second also =>
      agree first (mem_append_left _ listed) second (mem_append_left _ also)
    rw [step, get_set]
    by_cases same : key = entry.1
    · rw [if_pos same, Option.some.injEq]
      constructor
      · rintro rfl
        exact mem_append_right _ (by simp [same])
      · intro listed
        have equal := agree (key, value) listed entry (by simp) same
        rw [← equal]
    · rw [if_neg same, before]
      have other : (key, value) ≠ entry := fun equal => same (by rw [← equal])
      simp [other]

omit [DecidableEq κ] in
lemma nodup_eraseDups [BEq κ] [LawfulBEq κ] (items : List κ) : items.eraseDups.Nodup := by
  induction size : items.length using Nat.strongRecOn generalizing items with
  | ind length ih =>
    cases items with
    | nil => exact nodup_nil
    | cons item rest =>
      rw [eraseDups_cons, nodup_cons]
      constructor
      · intro listed
        simp at listed
      · apply ih _ _ _ rfl
        rw [← size, length_cons]
        exact Nat.lt_succ_of_le (length_filter_le _ _)

end Dict

end Sct
