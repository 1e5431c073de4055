import Mathlib.Data.List.Basic

/-!
# Bisection over repositories

The loop of `bisect_test` in `sdcm/utils/bisect_test.py`. What updating the cluster to a repository
shows is part of the repository, which is tried at most once.
-/

namespace Sct.Utils

/-- The version that updated nodes report, and `bisect_result_value` of the test on them. -/
structure Installed where
  version : String
  resultValue : Int

structure Repo where
  url : String
  /-- `none` when the update raises. -/
  installed : Option Installed

structure Bisection where
  repoUrls : List Repo
  low : Int
  high : Int
  /-- `none` for `"unknown"`. -/
  lastGoodVersion : Option String
  firstBadVersion : Option String

namespace Bisection

def start (repoUrls : List Repo) : Bisection := ⟨repoUrls, 0, repoUrls.length - 1, none, none⟩

/-- One round, `none` when it indexes outside the list. -/
def round (refValue : Int) (state : Bisection) : Option Bisection :=
  let mid := (state.low + state.high) / 2
  if mid < 0 then none
  else state.repoUrls[mid.toNat]?.map fun repo =>
    match repo.installed with
    | none =>
      { state with repoUrls := state.repoUrls.eraseIdx mid.toNat, high := state.high - 1 }
    | some found =>
      if refValue ≤ found.resultValue then
        { state with lastGoodVersion := some found.version, low := mid + 1 }
      else { state with firstBadVersion := some found.version, high := mid - 1 }

/-- `while low <= high`, for at most so many rounds. -/
def run (refValue : Int) : Nat → Bisection → Option Bisection
  | 0, state => some state
  | rounds + 1, state =>
    if state.low ≤ state.high then (state.round refValue).bind (run refValue rounds)
    else some state

end Bisection

end Sct.Utils
