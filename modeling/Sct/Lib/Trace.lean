import Sct.Lib.Effect

/-!
# Traces of calls

A computation whose state keeps a record of the calls it makes. `Traces record calls` says which
calls it makes: all of `calls`, in order, when it returns; some of the first of them when it
raises, and then the last one made is what failed.
-/

open List

namespace Sct.Effect

variable {ε σ α β τ : Type} {record : σ → List τ} {fails : τ → Prop}

/-- The computation makes the calls; a raise ends it in a call that fails. -/
def Traces (record : σ → List τ) (fails : τ → Prop) (calls : List τ) (body : EStateM ε σ α) :
    Prop :=
  ∀ state, match body.run state with
    | .ok _ after => record after = record state ++ calls
    | .error _ after => ∃ made last rest, calls = made ++ last :: rest ∧
        record after = record state ++ (made ++ [last]) ∧ fails last

variable {calls : List τ} {body : EStateM ε σ α} {state after : σ}

lemma Traces.of_ok (traces : Traces record fails calls body) {value : α}
    (ran : body.run state = .ok value after) : record after = record state ++ calls := by
  have result := traces state
  rw [ran] at result
  exact result

lemma Traces.of_error (traces : Traces record fails calls body) {exc : ε}
    (ran : body.run state = .error exc after) :
    ∃ made last rest, calls = made ++ last :: rest ∧
      record after = record state ++ (made ++ [last]) ∧ fails last := by
  have result := traces state
  rw [ran] at result
  exact result

lemma traces_pure (value : α) : Traces record fails [] (pure value : EStateM ε σ α) := by
  intro state
  simp

lemma traces_get : Traces record fails [] (get : EStateM ε σ σ) := by
  intro state
  simp

lemma traces_bind {first : EStateM ε σ α} {second : α → EStateM ε σ β} {early late : List τ}
    (head : Traces record fails early first)
    (tail : ∀ value, Traces record fails late (second value)) :
    Traces record fails (early ++ late) (first >>= second) := by
  intro state
  rw [EStateM.run_bind]
  cases began : first.run state with
  | ok value middle =>
    have started := head.of_ok began
    cases ended : (second value).run middle with
    | ok result after =>
      have finished := (tail value).of_ok ended
      simp only [ended]
      rw [finished, started, append_assoc]
    | error exc after =>
      obtain ⟨made, last, rest, split, recorded, failed⟩ := (tail value).of_error ended
      simp only [ended]
      refine ⟨early ++ made, last, rest, ?_, ?_, failed⟩
      · rw [split, append_assoc]
      · rw [recorded, started, append_assoc, append_assoc]
  | error exc after =>
    obtain ⟨made, last, rest, split, recorded, failed⟩ := head.of_error began
    refine ⟨made, last, rest ++ late, ?_, recorded, failed⟩
    rw [split, append_assoc, cons_append]

lemma traces_forM {body : α → EStateM ε σ PUnit} {calls : α → List τ} (items : List α)
    (step : ∀ item, Traces record fails (calls item) (body item)) :
    Traces record fails (items.flatMap calls) (forM items body) := by
  induction items with
  | nil => exact traces_pure _
  | cons item rest ih =>
    exact traces_bind (step item) fun _ => ih

lemma traces_ite {condition : Prop} [Decidable condition] {body : EStateM ε σ PUnit}
    (traces : Traces record fails calls body) :
    Traces record fails (if condition then calls else []) (if condition then body else pure ⟨⟩) := by
  by_cases holds : condition
  · simpa [holds] using traces
  · simpa [holds] using traces_pure _

end Sct.Effect
