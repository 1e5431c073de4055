import Mathlib.Algebra.Group.Nat.Defs
import Mathlib.Data.Rat.Defs

/-!
# Decorators

The decorator `retrying` of `sdcm/utils/decorators.py`. How each call of the decorated function ends
and what the clock shows after it are given; times are in seconds. The pauses and the log lines are
left out.
-/

namespace Sct.Utils

/-- How a call of the decorated function ends; one that failed raised an allowed exception. -/
inductive Outcome (α ε : Type) where
  | returned (value : α)
  | failed (exc : ε)
  | raised (exc : ε)

/-- The calls of the decorated function and the clock readings after them. -/
structure Calls (α ε : Type) where
  outcome : Nat → Outcome α ε
  start : Rat
  positive : 0 < start
  clock : Nat → Rat

/-- Number of calls made, and what is returned or raised in the end. -/
structure Ended (α ε : Type) where
  calls : Nat
  result : Except ε (Option α)

structure Retrying where
  n : Nat
  timeout : Rat
  nonneg : 0 ≤ timeout
  raiseOnExceeded : Bool

namespace Retrying

variable {α ε : Type} (retrying : Retrying) (calls : Calls α ε)

/-- `self.n`: zero stands for `sys.maxsize * 2 + 1`. -/
def limit : Nat := if retrying.n = 0 then 2 ^ 64 - 1 else retrying.n

def endTime : Rat := if retrying.timeout = 0 then 0 else calls.start + retrying.timeout

/-- `end_time and time.time() > end_time`. -/
def exceeded (i : Nat) : Bool :=
  retrying.endTime calls != 0 && decide (retrying.endTime calls < calls.clock i)

/-- The loop of `inner` from index `i` on. -/
def loop : (left i : Nat) → Ended α ε
  | 0, i => ⟨i, .ok none⟩
  | left + 1, i =>
    match calls.outcome i with
    | .returned value => ⟨i + 1, .ok (some value)⟩
    | .raised exc => ⟨i + 1, .error exc⟩
    | .failed exc =>
      if (i == retrying.limit - 1 || retrying.exceeded calls i) && retrying.raiseOnExceeded then
        ⟨i + 1, .error exc⟩
      else loop left (i + 1)

def inner : Ended α ε :=
  if retrying.limit = 1 then
    match calls.outcome 0 with
    | .returned value => ⟨1, .ok (some value)⟩
    | .failed exc => ⟨1, .error exc⟩
    | .raised exc => ⟨1, .error exc⟩
  else retrying.loop calls retrying.limit 0

end Retrying

end Sct.Utils
