import Mathlib.Algebra.Group.Nat.Defs
import Sct.Utils.BisectTest

/-!
# What a bisection reports

The last good repository stands right before the window of the search and the first bad one right
after it. An entry is deleted only after its update failed, so the list keeps the repositories that
can be installed, and at the end the two stand side by side. A round that deletes nothing halves the
window.
-/

open List

namespace Sct.Utils

def Repo.installable (repo : Repo) : Bool := repo.installed.isSome

lemma filter_eraseIdx {repos : List Repo} {index : Nat} {repo : Repo}
    (listed : repos[index]? = some repo) (failed : repo.installed = none) :
    (repos.eraseIdx index).filter Repo.installable = repos.filter Repo.installable := by
  induction repos generalizing index with
  | nil => rfl
  | cons first rest ih =>
    cases index with
    | zero =>
      obtain rfl := Option.some.inj listed
      simp [Repo.installable, failed]
    | succ index => rw [eraseIdx_cons_succ, filter_cons, filter_cons, ih listed]

namespace Bisection

/-- A repository with this version, on which the test found no regression or one. -/
def Shows (refValue : Int) (good : Bool) (version : String) (repo : Repo) : Prop :=
  ∃ found, repo.installed = some found ∧ found.version = version ∧
    decide (refValue ≤ found.resultValue) = good

lemma Shows.installable {refValue : Int} {good : Bool} {version : String} {repo : Repo}
    (shown : Shows refValue good version repo) : repo.installable = true := by
  obtain ⟨found, installed, -⟩ := shown
  rw [Repo.installable, installed, Option.isSome_some]

/-- Where a search stands between the repositories it found good and bad. -/
structure Stands (refValue : Int) (repos : List Repo) (state : Bisection) : Prop where
  kept : state.repoUrls.filter Repo.installable = repos.filter Repo.installable
  bounds : 0 ≤ state.low ∧ state.low ≤ state.high + 1 ∧ state.high < state.repoUrls.length
  good : ∀ version ∈ state.lastGoodVersion, 0 < state.low ∧
    ∃ repo ∈ state.repoUrls[(state.low - 1).toNat]?, Shows refValue true version repo
  bad : ∀ version ∈ state.firstBadVersion,
    ∃ repo ∈ state.repoUrls[(state.high + 1).toNat]?, Shows refValue false version repo

variable {refValue : Int} {repos : List Repo} {state : Bisection}

lemma Stands.round (stands : Stands refValue repos state) (going : state.low ≤ state.high) :
    ∃ next, state.round refValue = some next ∧ Stands refValue repos next ∧
      next.high - next.low < state.high - state.low := by
  obtain ⟨kept, bounds, good, bad⟩ := stands
  unfold Bisection.round
  generalize middle : (state.low + state.high) / 2 = mid
  have inside : mid.toNat < state.repoUrls.length := by omega
  have listed := getElem?_eq_getElem inside
  generalize state.repoUrls[mid.toNat] = repo at listed
  simp only [listed, Option.map_some]
  rw [if_neg (by omega)]
  refine ⟨_, rfl, ?_⟩
  cases outcome : repo.installed with
  | none =>
    refine ⟨⟨(filter_eraseIdx listed outcome).trans kept, ?_, ?_, ?_⟩, by dsimp only; omega⟩
    · rw [length_eraseIdx_of_lt inside]
      dsimp only
      omega
    · intro version isGood
      obtain ⟨positive, shown⟩ := good version isGood
      rw [getElem?_eraseIdx_of_lt (by dsimp only; omega)]
      exact ⟨positive, shown⟩
    · intro version isBad
      have next : (state.high - 1 + 1).toNat + 1 = (state.high + 1).toNat := by omega
      rw [getElem?_eraseIdx_of_ge (by dsimp only; omega), next]
      exact bad version isBad
  | some found =>
    dsimp only
    split
    · rename_i enough
      refine ⟨⟨kept, by dsimp only; omega, ?_, bad⟩, by dsimp only; omega⟩
      rintro _ ⟨⟩
      refine ⟨by dsimp only; omega, repo, ?_, found, outcome, rfl, decide_eq_true enough⟩
      rw [Int.add_sub_cancel, listed]
      rfl
    · rename_i short
      refine ⟨⟨kept, by dsimp only; omega, good, ?_⟩, by dsimp only; omega⟩
      rintro _ ⟨⟩
      refine ⟨repo, ?_, found, outcome, rfl, decide_eq_false short⟩
      rw [Int.sub_add_cancel, listed]
      rfl

lemma Stands.run {rounds : Nat} (stands : Stands refValue repos state)
    (enough : state.high - state.low < rounds) : ∃ final,
      Bisection.run refValue rounds state = some final ∧ Stands refValue repos final ∧
        final.high < final.low := by
  induction rounds generalizing state with
  | zero => exact ⟨state, rfl, stands, by omega⟩
  | succ rounds ih =>
    rw [Bisection.run]
    by_cases going : state.low ≤ state.high
    · obtain ⟨next, ran, stands, less⟩ := stands.round going
      rw [if_pos going, ran]
      exact ih stands (by omega)
    · exact ⟨state, if_neg going, stands, by omega⟩

/-- For every list of repositories, whatever installs and however the test ends, the search ends
after at most as many rounds as there are repositories, with every index inside the list. If it
reports both versions, they follow each other among the repositories that can be installed. -/
theorem bisection_reports (refValue : Int) (repos : List Repo) :
    ∃ final, Bisection.run refValue repos.length (.start repos) = some final ∧
      final.high < final.low ∧
      ∀ lastGood ∈ final.lastGoodVersion, ∀ firstBad ∈ final.firstBadVersion,
        ∃ front good bad back, repos.filter Repo.installable = front ++ good :: bad :: back ∧
          Shows refValue true lastGood good ∧ Shows refValue false firstBad bad := by
  have begun : Stands refValue repos (.start repos) :=
    ⟨rfl, by dsimp only [start]; omega, fun _ => nofun, fun _ => nofun⟩
  obtain ⟨final, ran, stands, ended⟩ := @Stands.run _ _ _ repos.length begun
    (by dsimp only [start]; omega)
  refine ⟨final, ran, ended, fun lastGood isGood firstBad isBad => ?_⟩
  have bounds := stands.bounds
  obtain ⟨positive, good, before, shown⟩ := stands.good lastGood isGood
  obtain ⟨bad, after, shownBad⟩ := stands.bad firstBad isBad
  have next : (final.high + 1).toNat = (final.low - 1).toNat + 1 := by omega
  rw [next] at after
  obtain ⟨_, rfl⟩ := List.getElem?_eq_some_iff.mp before
  obtain ⟨inside, rfl⟩ := List.getElem?_eq_some_iff.mp after
  have parts := take_append_drop (final.low - 1).toNat final.repoUrls
  rw [drop_eq_getElem_cons (by omega), drop_eq_getElem_cons inside] at parts
  have whole := stands.kept
  rw [← parts, filter_append, filter_cons_of_pos shown.installable,
    filter_cons_of_pos shownBad.installable] at whole
  exact ⟨_, _, _, _, whole.symm, shown, shownBad⟩

/-- A round deletes a repository or leaves at most half of the window. -/
lemma Stands.round_halves (stands : Stands refValue repos state)
    (going : state.low ≤ state.high) {next : Bisection} (ran : state.round refValue = some next) :
    next.repoUrls.length + 1 = state.repoUrls.length ∨
      next.repoUrls.length = state.repoUrls.length ∧
        2 * (next.high + 1 - next.low) ≤ state.high + 1 - state.low := by
  have bounds := stands.bounds
  unfold Bisection.round at ran
  generalize middle : (state.low + state.high) / 2 = mid at ran
  have inside : mid.toNat < state.repoUrls.length := by omega
  rw [if_neg (by omega), getElem?_eq_getElem inside, Option.map_some] at ran
  obtain rfl := Option.some.inj ran
  have shorter := length_eraseIdx_of_lt inside
  cases state.repoUrls[mid.toNat].installed with
  | none =>
    left
    dsimp only
    omega
  | some found =>
    right
    dsimp only
    split <;> exact ⟨rfl, by dsimp only; omega⟩

lemma Stands.run_halving {rounds : Nat} (stands : Stands refValue repos state) (halvings : Nat)
    (narrow : (state.high + 1 - state.low).toNat < 2 ^ halvings)
    (enough : halvings + state.repoUrls.length ≤
      rounds + (repos.filter Repo.installable).length) :
    ∃ final, Bisection.run refValue rounds state = some final ∧ final.high < final.low := by
  induction rounds generalizing state halvings with
  | zero =>
    have listed := length_filter_le Repo.installable state.repoUrls
    rw [stands.kept] at listed
    have nothing : halvings = 0 := by omega
    rw [nothing] at narrow
    exact ⟨state, rfl, by omega⟩
  | succ rounds ih =>
    rw [Bisection.run]
    by_cases going : state.low ≤ state.high
    · obtain ⟨next, ran, kept, less⟩ := stands.round going
      rw [if_pos going, ran]
      rcases stands.round_halves going ran with deleted | ⟨same, halved⟩
      · exact ih kept halvings (by omega) (by omega)
      · cases halvings with
        | zero => omega
        | succ halvings =>
          rw [Nat.pow_succ] at narrow
          exact ih kept halvings (by omega) (by omega)
    · exact ⟨state, if_neg going, by omega⟩

/-- The rounds of a search: as many as its list has binary digits, and one for each repository
that cannot be installed. -/
theorem bisection_rounds (refValue : Int) (repos : List Repo) :
    ∃ final, Bisection.run refValue (repos.length.log2 + 1 +
        (repos.filter fun repo => !repo.installable).length) (.start repos) = some final ∧
      final.high < final.low := by
  have begun : Stands refValue repos (.start repos) :=
    ⟨rfl, by dsimp only [start]; omega, by simp [start], by simp [start]⟩
  have digits := @Nat.lt_log2_self repos.length
  have parts := @length_eq_length_filter_add _ repos Repo.installable
  apply begun.run_halving (repos.length.log2 + 1) <;> dsimp only [start] <;> omega

end Bisection

end Sct.Utils
