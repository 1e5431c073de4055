import Mathlib.Data.List.Basic

/-!
# Runs that issue calls

A run of code whose only effects are calls to services: the calls in order, and whether it ended
in a raise. What follows a raise is not run. Code that guards a part (`try … except Exception`)
issues the calls of the part and goes on.
-/

open List

namespace Sct

/-- The calls of a run, in order, and whether the run raised. -/
structure Issued (κ : Type) where
  calls : List κ
  /-- The run ended in a raise. -/
  raised : Bool
  deriving DecidableEq, Repr

namespace Issued

variable {κ α : Type}

def nothing : Issued κ := ⟨[], false⟩

def raise : Issued κ := ⟨[], true⟩

/-- One call, which raises if it is refused. -/
def attempt (refuses : κ → Bool) (call : κ) : Issued κ := ⟨[call], refuses call⟩

/-- A step after which the code goes on or raises, with no call. -/
def check (passes : Bool) : Issued κ := ⟨[], !passes⟩

def andThen (first second : Issued κ) : Issued κ :=
  if first.raised then first else ⟨first.calls ++ second.calls, second.raised⟩

def each (act : α → Issued κ) : List α → Issued κ
  | [] => nothing
  | item :: rest => (act item).andThen (each act rest)

/-- All items at once; a raise is seen at the end. -/
def parallel (act : α → Issued κ) (items : List α) : Issued κ :=
  ⟨items.flatMap fun item => (act item).calls, items.any fun item => (act item).raised⟩

/-- `try: … except Exception: log`. -/
def guarded (run : Issued κ) : Issued κ := ⟨run.calls, false⟩

/-- `if not skipped: …`. -/
def skipIf (skipped : Bool) (run : Issued κ) : Issued κ := if skipped then nothing else run

/-- `@retrying(n)`: again from the start after a raise, at most `count` times in all. -/
def retrying (count : Nat) (run : Issued κ) : Issued κ :=
  if run.raised then ⟨(List.replicate count run.calls).flatten, true⟩ else run

variable {call : κ}

@[simp]
lemma calls_nothing : (nothing : Issued κ).calls = [] := rfl

@[simp]
lemma raised_nothing : (nothing : Issued κ).raised = false := rfl

@[simp]
lemma calls_raise : (raise : Issued κ).calls = [] := rfl

variable (passes : Bool)

@[simp]
lemma calls_check : (check passes : Issued κ).calls = [] := rfl

variable (refuses : κ → Bool)

@[simp]
lemma calls_attempt (call : κ) : (attempt refuses call).calls = [call] := rfl

@[simp]
lemma raised_attempt (call : κ) : (attempt refuses call).raised = refuses call := rfl

variable (run : Issued κ)

@[simp]
lemma calls_guarded : run.guarded.calls = run.calls := rfl

@[simp]
lemma raised_guarded : run.guarded.raised = false := rfl

variable {first second : Issued κ}

lemma mem_calls_andThen :
    call ∈ (first.andThen second).calls ↔
      call ∈ first.calls ∨ first.raised = false ∧ call ∈ second.calls := by
  unfold andThen
  split
  · rename_i stopped
    simp [stopped]
  · rename_i going
    simp [going]

lemma raised_andThen (first second : Issued κ) :
    (first.andThen second).raised = (first.raised || second.raised) := by
  unfold andThen
  split
  · rename_i stopped
    rw [stopped, Bool.true_or]
  · rename_i going
    rw [Bool.not_eq_true] at going
    rw [going, Bool.false_or]

lemma raised_each_eq_false_iff (act : α → Issued κ) (items : List α) :
    (each act items).raised = false ↔ ∀ item ∈ items, (act item).raised = false := by
  induction items with
  | nil => simp [each]
  | cons first rest ih => rw [each, raised_andThen, Bool.or_eq_false_iff, ih, forall_mem_cons]

lemma each_map {β : Type} (act : β → Issued κ) (change : α → β) (items : List α) :
    each act (items.map change) = each (fun item => act (change item)) items := by
  induction items with
  | nil => rfl
  | cons first rest ih => rw [map_cons, each, each, ih]

/-- A call of a loop is one of an item that no raise precedes. -/
lemma mem_calls_each {act : α → Issued κ} {items : List α} :
    call ∈ (each act items).calls ↔ ∃ before item after, items = before ++ item :: after ∧
      (∀ earlier ∈ before, (act earlier).raised = false) ∧ call ∈ (act item).calls := by
  induction items with
  | nil => simp [each]
  | cons first rest ih =>
    rw [each, mem_calls_andThen, ih]
    constructor
    · rintro (now | ⟨going, before, item, after, split, quiet, later⟩)
      · exact ⟨[], first, rest, rfl, by simp, now⟩
      · refine ⟨first :: before, item, after, by rw [split, cons_append], ?_, later⟩
        intro earlier listed
        rcases mem_cons.mp listed with rfl | later
        · exact going
        · exact quiet earlier later
    · rintro ⟨before, item, after, split, quiet, issued⟩
      cases before with
      | nil =>
        obtain ⟨rfl, -⟩ := List.cons.inj split
        exact .inl issued
      | cons head before =>
        obtain ⟨rfl, tail⟩ := List.cons.inj split
        refine .inr ⟨quiet _ mem_cons_self, before, item, after, tail, ?_, issued⟩
        intro earlier listed
        exact quiet earlier (mem_cons_of_mem _ listed)

variable {act : α → Issued κ} {items : List α}

lemma mem_calls_each_of_quiet (quiet : ∀ item ∈ items, (act item).raised = false) :
    call ∈ (each act items).calls ↔ ∃ item ∈ items, call ∈ (act item).calls := by
  rw [mem_calls_each]
  constructor
  · rintro ⟨before, item, after, rfl, -, issued⟩
    exact ⟨item, by simp, issued⟩
  · rintro ⟨item, listed, issued⟩
    obtain ⟨before, after, rfl⟩ := append_of_mem listed
    exact ⟨before, item, after, rfl, fun earlier first => quiet earlier (by simp [first]), issued⟩

/-- Every call of a run is permitted. -/
structure All (permits : κ → Prop) (run : Issued κ) : Prop where
  permits_of_mem : ∀ call ∈ run.calls, permits call

variable {permits : κ → Prop}

lemma all_nothing : All permits nothing := ⟨by simp⟩

lemma all_raise : All permits raise := ⟨by simp⟩

lemma all_check : All permits (check passes) := ⟨by simp⟩

lemma all_attempt {refuses : κ → Bool} (permitted : permits call) :
    All permits (attempt refuses call) := by
  constructor
  intro other listed
  rw [calls_attempt, mem_singleton] at listed
  rw [listed]
  exact permitted

lemma All.andThen (before : All permits first) (after : All permits second) :
    All permits (first.andThen second) := by
  constructor
  intro call listed
  rcases mem_calls_andThen.mp listed with early | ⟨-, late⟩
  · exact before.permits_of_mem call early
  · exact after.permits_of_mem call late

lemma all_each (permitted : ∀ item ∈ items, All permits (act item)) :
    All permits (each act items) := by
  constructor
  intro call listed
  obtain ⟨before, item, after, rfl, -, issued⟩ := mem_calls_each.mp listed
  exact (permitted item (by simp)).permits_of_mem call issued

lemma all_parallel_iff :
    All permits (parallel act items) ↔ ∀ item ∈ items, All permits (act item) := by
  constructor
  · intro all item listed
    exact ⟨fun call issued =>
      all.permits_of_mem call (mem_flatMap.mpr ⟨item, listed, issued⟩)⟩
  · intro each
    constructor
    intro call issued
    obtain ⟨item, listed, among⟩ := mem_flatMap.mp issued
    exact (each item listed).permits_of_mem call among

variable {run : Issued κ}

lemma All.guarded (permitted : All permits run) : All permits run.guarded :=
  ⟨permitted.permits_of_mem⟩

lemma all_skipIf {skipped : Bool} (permitted : skipped = false → All permits run) :
    All permits (skipIf skipped run) := by
  cases skipped with
  | true => exact all_nothing
  | false => exact permitted rfl

lemma All.retrying (permitted : All permits run) (count : Nat) :
    All permits (run.retrying count) := by
  constructor
  intro call listed
  unfold Issued.retrying at listed
  split at listed
  · obtain ⟨pass, repeated, issued⟩ := mem_flatten.mp listed
    rw [(mem_replicate.mp repeated).2] at issued
    exact permitted.permits_of_mem call issued
  · exact permitted.permits_of_mem call listed

end Issued

end Sct
