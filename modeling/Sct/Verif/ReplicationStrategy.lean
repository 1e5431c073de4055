import Sct.Utils.ReplicationStrategy

/-!
# Leaving restores what was read first

A change never replaces a preserved strategy, so the dictionary holds for each keyspace what its
first granted read showed. Leaving goes through the same loop, where nothing is read any more.
-/

open List

namespace Sct.Utils.StrategySetter

variable {σ : Type}

/-- What the first change that could read the keyspace found. -/
def firstRead (keyspace : String) (changes : List (StrategyChange σ)) : Option σ :=
  (changes.filter fun change => change.keyspace = keyspace).findSome? StrategyChange.read

lemma get_preserved_set (setter : StrategySetter σ) (change : StrategyChange σ)
    (keyspace : String) : (setter.set change).preserved.get keyspace =
      (setter.preserved.get keyspace).or (firstRead keyspace [change]) := by
  unfold set preserve
  by_cases known : change.keyspace ∈ setter.preserved
  · obtain ⟨strategy, held⟩ := (Dict.mem_iff _ _).mp known
    by_cases own : change.keyspace = keyspace
    · simp [known, ← own, held]
    · simp [known, firstRead, own]
  · have absent := (Dict.notMem_iff _ _).mp known
    by_cases own : change.keyspace = keyspace
    · subst own
      cases read : change.read <;> simp [known, absent, firstRead, read]
    · cases change.read <;> simp [known, firstRead, own, Dict.get_set, Ne.symm own]

lemma get_preserved_call (changes : List (StrategyChange σ)) (setter : StrategySetter σ)
    (keyspace : String) : (setter.call changes).preserved.get keyspace =
      (setter.preserved.get keyspace).or (firstRead keyspace changes) := by
  induction changes generalizing setter with
  | nil => simp [call, firstRead]
  | cons change rest ih =>
    have split : firstRead keyspace (change :: rest) =
        (firstRead keyspace [change]).or (firstRead keyspace rest) := by
      rw [firstRead, ← singleton_append, filter_append, findSome?_append]
      rfl
    rw [split, ← Option.or_assoc, ← get_preserved_set]
    exact ih (setter.set change)

/-- Changes of preserved keyspaces are all requested. -/
lemma call_of_preserved {changes : List (StrategyChange σ)} {setter : StrategySetter σ}
    (known : ∀ change ∈ changes, change.keyspace ∈ setter.preserved) :
    (setter.call changes).alters = setter.alters ++ changes.map fun change =>
      ⟨change.keyspace, change.strategy, change.accepted⟩ := by
  induction changes generalizing setter with
  | nil => simp [call]
  | cons change rest ih =>
    obtain ⟨first, others⟩ := forall_mem_cons.mp known
    have turn : setter.set change = ⟨setter.preserved,
        setter.alters ++ [⟨change.keyspace, change.strategy, change.accepted⟩]⟩ := by
      simp [set, preserve, first]
    have step : setter.call (change :: rest) = (setter.set change).call rest := rfl
    rw [step, ih (by rw [turn]; exact others), turn]
    simp

/-- After any changes, with any reads and alterations refused, leaving requests for each keyspace
that was read the strategy that its first read showed, once and for no other keyspace, however each
request is answered. -/
theorem exit_restores (changes : List (StrategyChange σ)) (reads : String → Option σ)
    (accepts : String → Bool) :
    ∃ restored, ((enter.call changes).exit reads accepts).alters =
        (enter.call changes).alters ++ restored ∧
      (restored.map Alter.keyspace).Nodup ∧
      ∀ keyspace strategy, (∃ alter ∈ restored, alter.keyspace = keyspace ∧
        alter.strategy = strategy) ↔ firstRead keyspace changes = some strategy := by
  have held := get_preserved_call changes (enter : StrategySetter σ)
  generalize enter.call changes = setter at *
  refine ⟨_, call_of_preserved ?_, ?_, fun keyspace strategy => ?_⟩
  · intro change listed
    obtain ⟨⟨keyspace, strategy⟩, entry, rfl⟩ := mem_map.mp listed
    exact (Dict.mem_iff _ _).mpr ⟨strategy, (Dict.mem_entries_iff _ _ _).mp entry⟩
  · rw [map_map, map_map]
    exact setter.preserved.distinct
  · have value : setter.preserved.get keyspace = firstRead keyspace changes := held keyspace
    rw [← value, ← Dict.mem_entries_iff]
    simp

end Sct.Utils.StrategySetter
