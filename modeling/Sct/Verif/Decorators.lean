import Mathlib.Algebra.Order.Ring.Rat
import Mathlib.Data.Nat.Find
import Sct.Utils.Decorators

/-!
# What `retrying` promises

Retrying ends with the first call that does not fail in an allowed way, that is the last one
allowed, or that fails when the time is over. A decorator that raises keeps this. One that does not
raise goes on calling when the time is over, and one with a single try raises all the same.
-/

namespace Sct.Utils

variable {α ε : Type}

def Outcome.isFailure : Outcome α ε → Bool
  | .failed _ => true
  | _ => false

namespace Retrying

variable (retrying : Retrying) (calls : Calls α ε)

def TimedOut (i : Nat) : Prop :=
  retrying.timeout ≠ 0 ∧ calls.start + retrying.timeout < calls.clock i

/-- Nothing is to be called after call `i`. -/
def Stops (i : Nat) : Prop :=
  (calls.outcome i).isFailure = true → i + 1 = retrying.limit ∨ retrying.TimedOut calls i

/-- What comes of a call that is not followed by another. -/
def verdict (i : Nat) : Except ε (Option α) :=
  match calls.outcome i with
  | .returned value => .ok (some value)
  | .raised exc => .error exc
  | .failed exc => if retrying.raiseOnExceeded then .error exc else .ok none

/-- The function was called up to the first call that stops the retrying, within the limit, and
that call decides. -/
def Promised (ended : Ended α ε) : Prop :=
  ended.calls ≤ retrying.limit ∧ ∃ last, ended.calls = last + 1 ∧ retrying.Stops calls last ∧
    (∀ i < last, ¬ retrying.Stops calls i) ∧ ended.result = retrying.verdict calls last

/-- A single try does not fail, and no failure before the last try comes after the time is over. -/
def InTime : Prop :=
  (retrying.limit = 1 → (calls.outcome 0).isFailure = false) ∧
    ∀ i, i + 1 < retrying.limit → (∀ j ≤ i, (calls.outcome j).isFailure = true) →
      ¬ retrying.TimedOut calls i

lemma limit_pos : 0 < retrying.limit := by
  unfold limit
  split
  · decide
  · omega

lemma exceeded_iff (i : Nat) : retrying.exceeded calls i = true ↔ retrying.TimedOut calls i := by
  unfold exceeded endTime TimedOut
  by_cases off : retrying.timeout = 0
  · simp [off]
  · have later : calls.start + retrying.timeout ≠ 0 :=
      (add_pos_of_pos_of_nonneg calls.positive retrying.nonneg).ne'
    simp [off, later]

variable {retrying calls}

lemma stops_last : retrying.Stops calls (retrying.limit - 1) := by
  have positive := retrying.limit_pos
  exact fun _ => Or.inl (by omega)

lemma exists_first_stop : ∃ last < retrying.limit, retrying.Stops calls last ∧
    ∀ i < last, ¬ retrying.Stops calls i := by
  classical
  have some : ∃ i, retrying.Stops calls i := ⟨_, stops_last⟩
  have positive := retrying.limit_pos
  have least := Nat.find_min' some stops_last
  exact ⟨Nat.find some, by omega, Nat.find_spec some, fun i => Nat.find_min some⟩

/-- Only one run is promised. -/
lemma promised_iff {last : Nat} (within : last < retrying.limit)
    (stops : retrying.Stops calls last) (goes : ∀ i < last, ¬ retrying.Stops calls i)
    (ended : Ended α ε) :
    retrying.Promised calls ended ↔ ended = ⟨last + 1, retrying.verdict calls last⟩ := by
  constructor
  · rintro ⟨-, other, count, otherStops, otherGoes, result⟩
    have same : other = last := by
      by_contra differ
      rcases Nat.lt_or_gt_of_ne differ with before | after
      · exact goes other before otherStops
      · exact otherGoes last after stops
    subst same
    cases ended
    cases count
    cases result
    rfl
  · rintro rfl
    exact ⟨within, last, rfl, stops, goes, rfl⟩

lemma failure_of_not_stops {i : Nat} (goes : ¬ retrying.Stops calls i) :
    (∃ exc, calls.outcome i = .failed exc) ∧ i + 1 ≠ retrying.limit ∧
      ¬ retrying.TimedOut calls i := by
  unfold Stops at goes
  cases outcome : calls.outcome i with
  | returned value => simp [outcome, Outcome.isFailure] at goes
  | raised exc => simp [outcome, Outcome.isFailure] at goes
  | failed exc =>
    rw [outcome, Classical.not_imp, not_or] at goes
    exact ⟨⟨exc, rfl⟩, goes.2⟩

lemma loop_succ_of_not_stops {i : Nat} (goes : ¬ retrying.Stops calls i) (left : Nat) :
    retrying.loop calls (left + 1) i = retrying.loop calls left (i + 1) := by
  obtain ⟨⟨exc, outcome⟩, notLast, inTime⟩ := failure_of_not_stops goes
  have positive := retrying.limit_pos
  have index : ¬ (i == retrying.limit - 1) = true := by
    rw [beq_iff_eq]
    omega
  rw [loop, outcome]
  simp [index, mt (retrying.exceeded_iff calls i).mp inTime]

/-- The loop reaches every call before which nothing stops it. -/
lemma loop_eq {i : Nat} (goes : ∀ j < i, ¬ retrying.Stops calls j) {left : Nat}
    (rest : left + i = retrying.limit) :
    retrying.loop calls retrying.limit 0 = retrying.loop calls left i := by
  induction i generalizing left with
  | zero => rw [← rest, Nat.add_zero]
  | succ i ih =>
    have before := ih (fun j less => goes j (by omega)) (show left + 1 + i = _ by omega)
    rw [before, loop_succ_of_not_stops (goes i (by omega))]

lemma le_calls_loop (left i : Nat) : min left 1 + i ≤ (retrying.loop calls left i).calls := by
  induction left generalizing i with
  | zero => simp [loop]
  | succ left ih =>
    have next := ih (i + 1)
    rw [loop]
    split
    · simp only
      omega
    · simp only
      omega
    · split
      · simp only
        omega
      · omega

section First

variable {last : Nat} (stops : retrying.Stops calls last)
  (goes : ∀ i < last, ¬ retrying.Stops calls i)

include stops

lemma loop_eq_verdict_iff {left : Nat} (rest : left + 1 + last = retrying.limit) :
    retrying.loop calls (left + 1) last = ⟨last + 1, retrying.verdict calls last⟩ ↔
      retrying.raiseOnExceeded = true ∨
        ¬ ((calls.outcome last).isFailure = true ∧ last + 1 < retrying.limit) := by
  unfold verdict
  rw [loop]
  cases outcome : calls.outcome last with
  | returned value => simp [Outcome.isFailure]
  | raised exc => simp [Outcome.isFailure]
  | failed exc =>
    have ends : (last == retrying.limit - 1 || retrying.exceeded calls last) = true := by
      rw [Bool.or_eq_true, beq_iff_eq, exceeded_iff]
      refine (stops (by rw [outcome]; rfl)).imp_left fun final => ?_
      omega
    simp only [ends, Bool.true_and]
    cases retrying.raiseOnExceeded with
    | true => simp
    | false =>
      -- without a raise the loop goes on, which shows in the number of calls if a call is left
      have count := @le_calls_loop _ _ retrying calls left (last + 1)
      cases left with
      | zero =>
        have final : ¬ last + 1 < retrying.limit := by omega
        simp [loop, final]
      | succ left =>
        have early : last + 1 < retrying.limit := by omega
        simp only [Bool.false_eq_true, if_false, false_or, Outcome.isFailure, early, and_self,
          not_true_eq_false, iff_false]
        intro same
        rw [same] at count
        simp only at count
        omega

include goes

lemma inTime_iff (several : retrying.limit ≠ 1) : retrying.InTime calls ↔
    ¬ ((calls.outcome last).isFailure = true ∧ last + 1 < retrying.limit) := by
  constructor
  · rintro ⟨-, inTime⟩ ⟨failure, early⟩
    refine inTime last early (fun j upTo => ?_) ((stops failure).resolve_left (by omega))
    rcases Nat.lt_or_eq_of_le upTo with before | rfl
    · obtain ⟨⟨exc, outcome⟩, -⟩ := failure_of_not_stops (goes j before)
      rw [outcome]
      rfl
    · exact failure
  · intro final
    refine ⟨fun one => absurd one several, fun i early failures late => final ?_⟩
    have upTo : last ≤ i := by
      by_contra after
      exact goes i (by omega) fun _ => Or.inr late
    exact ⟨failures last upTo, by omega⟩

end First

/-- The decorator keeps its promise exactly if it raises in the end or the calls are in time. -/
theorem inner_promised_iff (retrying : Retrying) (calls : Calls α ε) :
    retrying.Promised calls (retrying.inner calls) ↔
      retrying.raiseOnExceeded = true ∨ retrying.InTime calls := by
  obtain ⟨last, within, stops, goes⟩ := @exists_first_stop _ _ retrying calls
  rw [promised_iff within stops goes]
  by_cases one : retrying.limit = 1
  · obtain rfl : last = 0 := by omega
    unfold inner InTime verdict
    rw [if_pos one]
    cases calls.outcome 0 <;> cases retrying.raiseOnExceeded <;> simp [one, Outcome.isFailure]
  · obtain ⟨left, rest⟩ : ∃ left, left + 1 + last = retrying.limit :=
      ⟨retrying.limit - last - 1, by omega⟩
    unfold inner
    rw [if_neg one, loop_eq goes rest, loop_eq_verdict_iff stops rest, inTime_iff stops goes one]

def singleTry : Retrying := ⟨1, 0, by decide, false⟩

def threeTries : Retrying := ⟨3, 1, by decide, false⟩

/-- Every call fails; the clock goes from one to three. -/
def allFail : Calls Unit Unit := ⟨fun _ => .failed (), 1, by decide, fun _ => 3⟩

/-- A single try raises although it is not to, and three tries are made although the time is over
after the first. -/
theorem promise_broken :
    ¬ singleTry.Promised allFail (singleTry.inner allFail) ∧
      ¬ threeTries.Promised allFail (threeTries.inner allFail) := by
  constructor
  · rintro ⟨-, last, count, -, -, result⟩
    have raised : (singleTry.inner allFail).result = .error () := rfl
    have calm : singleTry.verdict allFail last = .ok none := rfl
    rw [raised, calm] at result
    cases result
  · rintro ⟨-, last, count, -, goes, -⟩
    have three : (threeTries.inner allFail).calls = 3 := by decide +kernel
    have late : threeTries.TimedOut allFail 0 := by
      unfold TimedOut
      decide +kernel
    exact goes 0 (by omega) fun _ => Or.inr late

end Retrying

end Sct.Utils
