import Sct.Lib.Dict

/-!
# The order of a dictionary

Iterating over a dictionary meets its values in the order in which their keys came in. When every
value records the place at which its key did, the places increase along the entries: setting a key
that is present keeps its place, a new key has a later place than all others, and removing entries
leaves the others in order. The last value with a property is then the one with the latest place.
-/

open List

namespace Sct.Dict

variable {κ α β : Type} [DecidableEq κ] {place : α → Nat} {dict : Dict κ α} {bound : Nat}

/-- The places of the values increase along the entries, below a bound. -/
structure InOrder (place : α → Nat) (dict : Dict κ α) (bound : Nat) : Prop where
  increasing : (dict.entries.map fun entry => place entry.2).Pairwise (· < ·)
  below : ∀ entry ∈ dict.entries, place entry.2 < bound

section

variable (ordered : InOrder place dict bound)

include ordered

omit [DecidableEq κ] in
lemma InOrder.of_sublist {other : Dict κ α}
    (part : other.entries.Sublist dict.entries) : InOrder place other bound :=
  ⟨ordered.increasing.sublist (part.map _),
    fun entry listed => ordered.below entry (part.subset listed)⟩

omit [DecidableEq κ] in
lemma InOrder.succ : InOrder place dict (bound + 1) :=
  ⟨ordered.increasing, fun entry listed => Nat.lt_succ_of_lt (ordered.below entry listed)⟩

lemma InOrder.set_present {key : κ} {old value : α}
    (held : dict.get key = some old) (same : place value = place old) :
    InOrder place (dict.set key value) bound := by
  have places := map_values_set place dict value held same
  refine ⟨by rw [places]; exact ordered.increasing, ?_⟩
  intro entry listed
  have inPlaces : place entry.2 ∈ dict.entries.map fun entry => place entry.2 := by
    rw [← places]
    exact mem_map_of_mem listed
  obtain ⟨other, present, equal⟩ := mem_map.mp inPlaces
  rw [← equal]
  exact ordered.below other present

lemma InOrder.set_new {key : κ} {value : α}
    (absent : dict.get key = none) (placed : place value = bound) :
    InOrder place (dict.set key value) (bound + 1) := by
  have entries := entries_set_of_get_none dict value absent
  refine ⟨?_, ?_⟩
  · rw [entries, map_append, pairwise_append]
    refine ⟨ordered.increasing, pairwise_singleton _ _, ?_⟩
    intro first listed second last
    obtain ⟨entry, present, rfl⟩ := mem_map.mp listed
    rw [map_singleton, mem_singleton] at last
    rw [last, placed]
    exact ordered.below entry present
  · intro entry listed
    rw [entries, mem_append, mem_singleton] at listed
    rcases listed with present | rfl
    · exact Nat.lt_succ_of_lt (ordered.below entry present)
    · rw [placed]
      exact Nat.lt_succ_self bound

end

/-- The last of the results a function has on a list with increasing places is its result at the
latest place. -/
lemma getLast?_filterMap_eq_some_iff {place : α → Nat} {items : List α}
    (increasing : (items.map place).Pairwise (· < ·)) (find : α → Option β) (result : β) :
    (items.filterMap find).getLast? = some result ↔
      ∃ last ∈ items, find last = some result ∧
        ∀ item ∈ items, find item ≠ none → place item ≤ place last := by
  induction items using List.reverseRecOn with
  | nil => simp
  | append_singleton items final ih =>
    rw [map_append, pairwise_append] at increasing
    obtain ⟨first, -, apart⟩ := increasing
    have before : ∀ item ∈ items, place item < place final := fun item listed =>
      apart _ (mem_map_of_mem listed) _ (by simp)
    rw [filterMap_append]
    cases found : find final with
    | none =>
      have dropped : [final].filterMap find = [] := by simp [found]
      rw [dropped, append_nil, ih first]
      constructor
      · rintro ⟨last, listed, finds, latest⟩
        refine ⟨last, mem_append_left _ listed, finds, fun item present finds => ?_⟩
        rcases mem_append.mp present with present | present
        · exact latest item present finds
        · rw [mem_singleton.mp present] at finds
          exact absurd found finds
      · rintro ⟨last, listed, finds, latest⟩
        rcases mem_append.mp listed with listed | listed
        · exact ⟨last, listed, finds, fun item present =>
            latest item (mem_append_left _ present)⟩
        · rw [mem_singleton.mp listed, found] at finds
          cases finds
    | some value =>
      have kept : [final].filterMap find = [value] := by simp [found]
      rw [kept, getLast?_append, getLast?_singleton, Option.some_or, Option.some.injEq]
      constructor
      · rintro rfl
        refine ⟨final, by simp, found, fun item present _ => ?_⟩
        rcases mem_append.mp present with present | present
        · exact Nat.le_of_lt (before item present)
        · exact Nat.le_of_eq (congrArg place (mem_singleton.mp present))
      · rintro ⟨last, listed, finds, latest⟩
        have reached := latest final (by simp) (by simp [found])
        rcases mem_append.mp listed with listed | listed
        · have earlier := before last listed
          omega
        · rw [mem_singleton.mp listed, found] at finds
          exact Option.some.inj finds

end Sct.Dict
