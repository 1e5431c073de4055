import Mathlib.Data.List.Forall2
import Mathlib.Tactic.Common

/-!
# Loops that may raise

A loop over a list that carries a state and may raise is a `foldlM` in `Except`. Its rule has an
invariant that speaks of the items behind the loop. A list comprehension that may raise is a
`mapM` in `Option`.
-/

open List

namespace Sct.Fallible

variable {ε σ α β : Type}

lemma bind_eq_ok_iff {first : Except ε α} {second : α → Except ε β} {result : β} :
    first >>= second = .ok result ↔ ∃ value, first = .ok value ∧ second value = .ok result := by
  cases first with
  | error exc => exact ⟨nofun, nofun⟩
  | ok value =>
    constructor
    · intro ran
      exact ⟨value, rfl, ran⟩
    · rintro ⟨returned, equal, ran⟩
      cases equal
      exact ran

/-- What every turn keeps, with one more item behind it, holds of a loop that returns. -/
lemma foldlM_invariant {step : σ → α → Except ε σ} {holds : List α → σ → Prop} {items : List α}
    (turn : ∀ done item, item ∈ items → ∀ before after, holds done before →
      step before item = .ok after → holds (done ++ [item]) after)
    {done : List α} {start last : σ} (initial : holds done start)
    (ran : items.foldlM step start = .ok last) : holds (done ++ items) last := by
  induction items generalizing done start with
  | nil =>
    cases ran
    rw [append_nil]
    exact initial
  | cons item rest ih =>
    rw [foldlM_cons, bind_eq_ok_iff] at ran
    obtain ⟨middle, first, others⟩ := ran
    have reached : holds (done ++ [item]) middle :=
      turn done item mem_cons_self start middle initial first
    have ended := ih (fun done item listed => turn done item (mem_cons_of_mem _ listed))
      reached others
    rwa [append_assoc] at ended

lemma mapM_eq_some_iff {build : α → Option β} {items : List α} {results : List β} :
    items.mapM build = some results ↔
      List.Forall₂ (fun item result => build item = some result) items results := by
  induction items generalizing results with
  | nil => simp [eq_comm]
  | cons item rest ih =>
    rw [mapM_cons]
    change Option.bind (build item) _ = some results ↔ _
    rw [Option.bind_eq_some_iff]
    constructor
    · rintro ⟨first, built, later⟩
      obtain ⟨others, mapped, whole⟩ := Option.bind_eq_some_iff.mp later
      rw [← Option.some.inj whole]
      exact .cons built (ih.mp mapped)
    · intro each
      cases each with
      | cons built others =>
        refine ⟨_, built, ?_⟩
        rw [ih.mpr others]
        rfl

lemma exists_mapM_eq_some {build : α → Option β} {items : List α}
    (each : ∀ item ∈ items, ∃ result, build item = some result) :
    ∃ results, items.mapM build = some results := by
  induction items with
  | nil => exact ⟨[], rfl⟩
  | cons item rest ih =>
    obtain ⟨first, built⟩ := each item mem_cons_self
    obtain ⟨others, mapped⟩ := ih fun other listed => each other (mem_cons_of_mem _ listed)
    exact ⟨first :: others, mapM_eq_some_iff.mpr (.cons built (mapM_eq_some_iff.mp mapped))⟩

end Sct.Fallible
