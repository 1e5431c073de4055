import Mathlib.Logic.Function.Basic
import Sct.Lib.Dict

/-!
# Changing the fields of a record

A record has a value of its own type for every key. `changeAll` goes through a list of entries and
changes the field of each by a rule that may fail. When no key occurs twice, every field is changed
by its own entry alone, so the whole change is known field by field (`changeAll_eq_some_iff`).
-/

namespace Sct.Fields

variable {K E : Type} [DecidableEq K] {V : K → Type}

/-- Change the fields of the entries, one after another. -/
def changeAll (change : (key : K) → V key → E → Option (V key)) :
    List (K × E) → ((key : K) → V key) → Option ((key : K) → V key)
  | [], fields => some fields
  | (key, entry) :: rest, fields =>
    (change key (fields key) entry).bind fun value =>
      changeAll change rest (Function.update fields key value)

/-- One field, changed by its entry if it has one. -/
def changed (change : (key : K) → V key → E → Option (V key)) (key : K) (value : V key) :
    Option E → Option (V key)
  | none => some value
  | some entry => change key value entry

lemma changeAll_eq_some_iff (change : (key : K) → V key → E → Option (V key))
    {entries : List (K × E)} (distinct : (entries.map Prod.fst).Nodup)
    (fields after : (key : K) → V key) :
    changeAll change entries fields = some after ↔
      ∀ key, changed change key (fields key) (Dict.lookup key entries) = some (after key) := by
  induction entries generalizing fields with
  | nil =>
    simp only [changeAll, Option.some.injEq, Dict.lookup, changed]
    exact funext_iff
  | cons entry rest ih =>
    obtain ⟨key, entry⟩ := entry
    rw [List.map_cons, List.nodup_cons] at distinct
    have absent := Dict.lookup_eq_none distinct.1
    rw [changeAll, Option.bind_eq_some_iff]
    constructor
    · rintro ⟨value, first, others⟩ other
      have settled := (ih distinct.2 _).mp others other
      rw [Dict.lookup]
      by_cases same : key = other
      · subst same
        rw [absent, Function.update_self] at settled
        rw [if_pos rfl, changed, first]
        exact settled
      · rw [Function.update_of_ne (Ne.symm same)] at settled
        rw [if_neg same]
        exact settled
    · intro settled
      have own := settled key
      rw [Dict.lookup, if_pos rfl] at own
      refine ⟨after key, own, (ih distinct.2 _).mpr fun other => ?_⟩
      have others := settled other
      rw [Dict.lookup] at others
      by_cases same : key = other
      · subst same
        rw [absent, Function.update_self, changed]
      · rw [if_neg same] at others
        rw [Function.update_of_ne (Ne.symm same)]
        exact others

end Sct.Fields
