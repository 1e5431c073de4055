import Mathlib.Data.List.Nodup
import Mathlib.Logic.Function.Basic
import Sct.Lib.Effect

/-!
# Rewriting the entries of a table

A table maps keys to values. Each entry has a lookup, which may fail and which may use an outside
state. `assignEach` writes every answer as it arrives, so a lookup that raises leaves the entries
before it rewritten; `assignAll` collects the answers first and writes them at the end. `answers`
is what the lookups say when nothing is written. With distinct keys a lookup never sees an
answer, so a raising `assignEach` has written exactly the answers before the raise
(`assignEach_error_iff`), and it leaves the table as it was exactly when those answers are the
values the entries already had (`assignEach_atomic_iff`).
-/

open Sct.Effect
open List
open EStateM (run_bind run_get run_pure)
open EStateM (Result)
open Function (update update_eq_self update_of_ne update_self)

namespace Sct.Table

variable {ε κ K V : Type}

/-- The answers to all keys, for a table that nobody writes. -/
def answers (lookup : K → V → EStateM ε κ V) (table : K → V) : List K → EStateM ε κ (List V)
  | [] => pure []
  | key :: rest => do
    let value ← lookup key (table key)
    let others ← answers lookup table rest
    pure (value :: others)

/-- The answers are the values the entries have. -/
def Stand (table : K → V) (keys : List K) (values : List V) : Prop :=
  List.Forall₂ (fun key value => table key = value) keys values

variable {lookup : K → V → EStateM ε κ V} {table : K → V} {key : K} {values : List V}
  {outside after : κ}

lemma answers_cons_ok {rest : List K}
    (ran : (answers lookup table (key :: rest)).run outside = .ok values after) :
    ∃ value others middle, (lookup key (table key)).run outside = .ok value middle ∧
      (answers lookup table rest).run middle = .ok others after ∧ values = value :: others := by
  obtain ⟨value, middle, found, later⟩ := bind_ok_iff.mp ran
  obtain ⟨others, reached, answered, ended⟩ := bind_ok_iff.mp later
  obtain ⟨rfl, rfl⟩ := Result.ok.inj ended
  exact ⟨value, others, middle, found, answered, rfl⟩

variable {keys : List K}

lemma answers_length (ran : (answers lookup table keys).run outside = .ok values after) :
    values.length = keys.length := by
  induction keys generalizing values outside with
  | nil =>
    obtain ⟨rfl, rfl⟩ := Result.ok.inj ran
    rfl
  | cons key rest ih =>
    obtain ⟨value, others, middle, found, answered, rfl⟩ := answers_cons_ok ran
    simp [ih answered]

variable {holds : K → V → Prop}

lemma answers_forall
    (answered : ∀ key outside result after, (lookup key (table key)).run outside = .ok result after
      → holds key result) (ran : (answers lookup table keys).run outside = .ok values after) :
    List.Forall₂ holds keys values := by
  induction keys generalizing values outside with
  | nil =>
    obtain ⟨rfl, rfl⟩ := Result.ok.inj ran
    exact .nil
  | cons key rest ih =>
    obtain ⟨value, others, middle, found, later, rfl⟩ := answers_cons_ok ran
    exact .cons (answered _ _ _ _ found) (ih later)

variable [DecidableEq K]

/-- Look up each key in turn and write its answer at once. -/
def assignEach (lookup : K → V → EStateM ε κ V) : List K → EStateM ε ((K → V) × κ) Unit
  | [] => pure ()
  | key :: rest => do
    let state ← get
    let value ← zoom Prod.snd (fun outside state => (state.1, outside)) (lookup key (state.1 key))
    modify fun state => (update state.1 key value, state.2)
    assignEach lookup rest

/-- Write a value to each key. -/
def write (table : K → V) : List K → List V → K → V
  | key :: keys, value :: values => write (update table key value) keys values
  | _, _ => table

/-- Look up all keys, and write the answers when there is one for each. -/
def assignAll (lookup : K → V → EStateM ε κ V) (keys : List K) :
    EStateM ε ((K → V) × κ) Unit := do
  let state ← get
  let values ← zoom Prod.snd (fun outside state => (state.1, outside))
    (answers lookup state.1 keys)
  modify fun state => (write state.1 keys values, state.2)

lemma answers_update (fresh : key ∉ keys) (value : V) :
    answers lookup (update table key value) keys = answers lookup table keys := by
  induction keys with
  | nil => rfl
  | cons other rest ih =>
    have apart : other ≠ key := fun same => fresh (same ▸ mem_cons_self)
    have later : key ∉ rest := fun listed => fresh (mem_cons_of_mem other listed)
    simp only [answers, ih later, update_of_ne apart]

lemma write_of_notMem (fresh : key ∉ keys) (table : K → V) (values : List V) :
    write table keys values key = table key := by
  induction keys generalizing table values with
  | nil => rfl
  | cons other rest ih =>
    have apart : key ≠ other := fun same => fresh (same ▸ mem_cons_self)
    have later : key ∉ rest := fun listed => fresh (mem_cons_of_mem other listed)
    cases values with
    | nil => rfl
    | cons value others => rw [write, ih later, update_of_ne apart]

/-- Writing leaves the table as it was exactly when it writes what is there. -/
lemma write_eq_iff (distinct : keys.Nodup) (length : values.length = keys.length)
    (table : K → V) :
    write table keys values = table ↔ Stand table keys values := by
  induction keys generalizing values table with
  | nil =>
    have none : values = [] := length_eq_zero_iff.mp length
    simp [none, write, Stand]
  | cons key rest ih =>
    obtain ⟨fresh, others⟩ := nodup_cons.mp distinct
    cases values with
    | nil => simp at length
    | cons value more =>
      have lengths : more.length = rest.length := by simpa using length
      rw [write, Stand, forall₂_cons]
      constructor
      · intro same
        have first : table key = value := by
          rw [← congrFun same key, write_of_notMem fresh, update_self]
        rw [← first, update_eq_self] at same
        exact ⟨first, (ih others lengths table).mp same⟩
      · rintro ⟨rfl, stand⟩
        rw [update_eq_self]
        exact (ih others lengths table).mpr stand

lemma assignEach_cons_run (key : K) (rest : List K) (table : K → V) (outside : κ) :
    (assignEach lookup (key :: rest)).run (table, outside) =
      match (lookup key (table key)).run outside with
      | .ok value middle => (assignEach lookup rest).run (update table key value, middle)
      | .error error after => .error error (table, after) := by
  rw [assignEach, run_bind, run_get]
  simp only
  rw [run_bind, zoom_run]
  cases (lookup key (table key)).run outside with
  | ok value middle => rfl
  | error error after => rfl

lemma assignEach_error_iff (distinct : keys.Nodup) (table : K → V) (outside : κ) (exc : ε)
    (exit : (K → V) × κ) :
    (assignEach lookup keys).run (table, outside) = .error exc exit ↔
      ∃ before key rest values middle, keys = before ++ key :: rest ∧
        (answers lookup table before).run outside = .ok values middle ∧
        (lookup key (table key)).run middle = .error exc exit.2 ∧
        exit.1 = write table before values := by
  induction keys generalizing table outside with
  | nil => simp [assignEach]
  | cons key rest ih =>
    obtain ⟨fresh, others⟩ := nodup_cons.mp distinct
    rw [assignEach_cons_run]
    constructor
    · intro ran
      cases found : (lookup key (table key)).run outside with
      | error error after =>
        rw [found] at ran
        obtain ⟨rfl, rfl⟩ := Result.error.inj ran
        exact ⟨[], key, rest, [], outside, rfl, rfl, found, rfl⟩
      | ok value middle =>
        rw [found] at ran
        obtain ⟨before, failing, after, values, reached, split, ran, raised, wrote⟩ :=
          (ih others _ _).mp ran
        have unseen : key ∉ before := fun listed => fresh (by simp [split, listed])
        have unread : failing ≠ key := fun same => fresh (by simp [split, same])
        rw [answers_update unseen] at ran
        rw [update_of_ne unread] at raised
        refine ⟨key :: before, failing, after, value :: values, reached, ?_, ?_, raised, wrote⟩
        · rw [split, cons_append]
        · simp only [answers, run_bind, found, ran, run_pure]
    · rintro ⟨before, failing, after, values, reached, split, ran, raised, wrote⟩
      cases before with
      | nil =>
        obtain ⟨rfl, rfl⟩ := List.cons.inj split
        obtain ⟨rfl, rfl⟩ := Result.ok.inj ran
        rw [raised]
        obtain ⟨exitTable, exitOutside⟩ := exit
        simp only [write] at wrote
        rw [wrote]
      | cons first before =>
        obtain ⟨rfl, shorter⟩ := List.cons.inj split
        obtain ⟨value, more, middle, found, answered, rfl⟩ := answers_cons_ok ran
        have unseen : key ∉ before := fun listed => fresh (by simp [shorter, listed])
        have unread : failing ≠ key := fun same => fresh (by simp [shorter, same])
        rw [found]
        refine (ih others _ _).mpr ⟨before, failing, after, more, reached, shorter, ?_, ?_, wrote⟩
        · rw [answers_update unseen]
          exact answered
        · rw [update_of_ne unread]
          exact raised

/-- When every lookup answers, writing at once and writing at the end are the same. -/
lemma assignEach_ok_iff (distinct : keys.Nodup) (table : K → V) (outside : κ)
    (exit : (K → V) × κ) :
    (assignEach lookup keys).run (table, outside) = .ok () exit ↔
      ∃ values, (answers lookup table keys).run outside = .ok values exit.2 ∧
        exit.1 = write table keys values := by
  induction keys generalizing table outside with
  | nil =>
    obtain ⟨exitTable, exitOutside⟩ := exit
    simp only [assignEach, answers, run_pure, Result.ok.injEq, Prod.mk.injEq,
      true_and]
    constructor
    · rintro ⟨rfl, rfl⟩
      exact ⟨[], ⟨rfl, rfl⟩, rfl⟩
    · rintro ⟨values, ⟨rfl, rfl⟩, rfl⟩
      exact ⟨rfl, rfl⟩
  | cons key rest ih =>
    obtain ⟨fresh, others⟩ := nodup_cons.mp distinct
    rw [assignEach, run_bind, run_get]
    simp only
    rw [run_bind, zoom_run, answers, run_bind]
    cases (lookup key (table key)).run outside with
    | error error after => simp
    | ok value middle =>
      simp only [run_bind]
      refine (ih others (update table key value) middle).trans ?_
      rw [answers_update fresh]
      cases (answers lookup table rest).run middle with
      | error error after => simp
      | ok values after =>
        simp only [run_pure, Result.ok.injEq]
        constructor
        · rintro ⟨_, ⟨rfl, rfl⟩, wrote⟩
          exact ⟨value :: values, ⟨rfl, rfl⟩, wrote⟩
        · rintro ⟨_, ⟨rfl, rfl⟩, wrote⟩
          exact ⟨values, ⟨rfl, rfl⟩, wrote⟩

/-- Every answer before a lookup that raises is the value the entry has. -/
def AnswersStand (lookup : K → V → EStateM ε κ V) (table : K → V) (keys : List K)
    (outside : κ) : Prop :=
  ∀ before key rest values middle exc after, keys = before ++ key :: rest →
    (answers lookup table before).run outside = .ok values middle →
    (lookup key (table key)).run middle = .error exc after → Stand table before values

/-- A raise leaves the table as it was exactly when the answers before it are what was there. -/
lemma assignEach_atomic_iff (distinct : keys.Nodup) (table : K → V) (outside : κ) :
    (∀ exc exit, (assignEach lookup keys).run (table, outside) = .error exc exit →
      exit.1 = table) ↔ AnswersStand lookup table keys outside := by
  have part : ∀ {before : List K} {key : K} {rest : List K}, keys = before ++ key :: rest →
      before.Nodup := fun split => (nodup_append.mp (split ▸ distinct)).1
  constructor
  · intro kept before key rest values middle exc after split ran raised
    have threw := (assignEach_error_iff distinct table outside exc
      (write table before values, after)).mpr
      ⟨before, key, rest, values, middle, split, ran, raised, rfl⟩
    exact (write_eq_iff (part split) (answers_length ran) table).mp (kept _ _ threw)
  · intro stand exc exit threw
    obtain ⟨before, key, rest, values, middle, split, ran, raised, wrote⟩ :=
      (assignEach_error_iff distinct table outside exc exit).mp threw
    rw [wrote]
    exact (write_eq_iff (part split) (answers_length ran) table).mpr
      (stand before key rest values middle exc exit.2 split ran raised)

variable {exit : (K → V) × κ}

/-- Collecting the answers first makes every raise leave the table as it was. -/
lemma assignAll_error {exc : ε}
    (raised : (assignAll lookup keys).run (table, outside) = .error exc exit) : exit.1 = table := by
  obtain threw | ⟨state, middle, got, ran⟩ := bind_error_iff.mp raised
  · simp at threw
  · obtain ⟨rfl, rfl⟩ := Result.ok.inj got
    obtain threw | ⟨values, reached, found, wrote⟩ := bind_error_iff.mp ran
    · obtain ⟨part, _, rfl⟩ := zoom_error_iff.mp threw
      rfl
    · simp at wrote

lemma assignAll_ok (ran : (assignAll lookup keys).run (table, outside) = .ok () exit) :
    ∃ values, (answers lookup table keys).run outside = .ok values exit.2 ∧
      exit.1 = write table keys values := by
  obtain ⟨state, middle, got, rest⟩ := bind_ok_iff.mp ran
  obtain ⟨rfl, rfl⟩ := Result.ok.inj got
  obtain ⟨values, reached, found, wrote⟩ := bind_ok_iff.mp rest
  obtain ⟨part, answered, rfl⟩ := zoom_ok_iff.mp found
  obtain ⟨_, rfl⟩ := Result.ok.inj wrote
  exact ⟨values, answered, rfl⟩

lemma keeps_assignAll {holds : κ → Prop} (step : ∀ key value, Keeps holds (lookup key value))
    (keys : List K) :
    Keeps (fun state : (K → V) × κ => holds state.2) (assignAll lookup keys) := by
  have asked (table : K → V) (keys : List K) : Keeps holds (answers lookup table keys) := by
    induction keys with
    | nil => exact keeps_pure _
    | cons key rest ih =>
      apply keeps_bind (step key (table key))
      intro value
      apply keeps_bind ih
      intro others
      exact keeps_pure _
  apply keeps_bind keeps_get
  intro state
  apply keeps_bind (meets_zoom (asked state.1 keys) Prod.snd _ fun _ _ => rfl)
  intro values
  exact keeps_modify _ fun _ kept => kept

lemma write_forall (distinct : keys.Nodup) (all : List.Forall₂ holds keys values)
    (table : K → V) : ∀ key ∈ keys, holds key (write table keys values key) := by
  induction all generalizing table with
  | nil => simp
  | @cons key value keys values first rest ih =>
    obtain ⟨fresh, others⟩ := nodup_cons.mp distinct
    intro sought listed
    rw [write]
    rcases mem_cons.mp listed with rfl | listed
    · rw [write_of_notMem fresh, update_self]
      exact first
    · exact ih others _ sought listed

end Sct.Table
