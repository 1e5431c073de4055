import Sct.Provision.Common.RegionFallback

/-!
# Runs of the single-region loop

`Attempted` are the points of a run at which the cluster is about to be provisioned, in the
configured region or in a candidate. `Ended` lists every way a run can end, each with the point
it ended at. The callers' switch, restore and error factory never raise; under that promise
every run ends in one of these ways (`run_ended`), and a cleanup that raises at an attempted
point does end the run there (`run_of_cleanup_raised`).
-/

open Sct.Effect
open EStateM (run_bind run_pure)

namespace Sct.RegionFallback

variable {σ : Type}

/-- Switching and restoring only write settings, and building an exception always succeeds. -/
structure Settled (fallback : RegionFallback σ) (switched : String → List String → σ → σ)
    (restored : σ → σ) : Prop where
  switches : ∀ region azLetters state,
    (fallback.switchRegion region azLetters).run state = .ok () (switched region azLetters state)
  restores : ∀ state, fallback.restoreRegion.run state = .ok () (restored state)
  builds : ∀ message state, ∃ error after,
    (fallback.errorFactory message).run state = .ok error after

/-- The run that starts in `entry` gets to try the region in the second state. -/
inductive Attempted (fallback : RegionFallback σ) (entry : σ) : Option String → σ → Prop
  | configured : Attempted fallback entry fallback.originalRegion entry
  /-- A candidate is tried after the configured region and the candidates before it failed. -/
  | relocated {exc : Exc} {middle ready reached probed start : σ}
      {steps before rest : List (EStateM Exc σ (Option Candidate))}
      {step : EStateM Exc σ (Option Candidate)} {carried : List String × Exc}
      {targetRegion : String} {azLetters : List String}
      (failed : (fallback.attempt fallback.originalRegion).run entry = .ok (some exc) middle)
      (began : fallback.candidates.start.run middle = .ok steps ready)
      (split : steps = before ++ step :: rest)
      (passes : Passes fallback.relocate ([], exc) before ready carried reached)
      (yielded : step.run reached = .ok (some (targetRegion, azLetters)) probed)
      (switched : (fallback.switchRegion targetRegion azLetters).run probed = .ok () start) :
      Attempted fallback entry (some targetRegion) start

/-- Every way a run that starts in `entry` can end. -/
inductive Ended (fallback : RegionFallback σ) (restored : σ → σ) (entry : σ) :
    EStateM.Result Exc σ Unit → Prop
  | succeeded {region : Option String} {start exit : σ}
      (attempted : Attempted fallback entry region start)
      (ran : fallback.provisionOnce.run start = .ok () exit) :
      Ended fallback restored entry (.ok () exit)
  /-- An attempt raised an error that is not about capacity. -/
  | propagated {region : Option String} {start failed : σ} {exc : Exc}
      (attempted : Attempted fallback entry region start)
      (ran : fallback.provisionOnce.run start = .error exc failed)
      (hard : fallback.isCapacityError exc = false) :
      Ended fallback restored entry (.error exc (restored failed))
  | cleanupRaised {region : Option String} {start failed exit : σ} {exc error : Exc}
      (attempted : Attempted fallback entry region start)
      (ran : fallback.provisionOnce.run start = .error exc failed)
      (capacity : fallback.isCapacityError exc = true)
      (raised : (fallback.cleanupRegion region).run failed = .error error exit) :
      Ended fallback restored entry (.error error exit)
  | candidatesRaised {error : Exc} {state : σ} :
      Ended fallback restored entry (.error error (restored state))
  | exhausted {message : String} {error : Exc} {state exit : σ}
      (built : (fallback.errorFactory message).run (restored state) = .ok error exit) :
      Ended fallback restored entry (.error error exit)

lemma restoringOnRaise_run {α : Type} {restore : EStateM Exc σ Unit} {restored : σ → σ}
    (restores : ∀ state, restore.run state = .ok () (restored state)) (body : EStateM Exc σ α)
    (state : σ) :
    (restoringOnRaise restore body).run state = match body.run state with
      | .ok value after => .ok value after
      | .error exc after => .error exc (restored after) := by
  rw [restoringOnRaise, run_tryCatch]
  cases body.run state with
  | ok value after => rfl
  | error exc after =>
    change (restore >>= fun _ => throw exc).run after = _
    rw [run_bind, restores]
    rfl

variable {fallback : RegionFallback σ} {switched : String → List String → σ → σ}
  {restored : σ → σ}

lemma attempt_run (settled : Settled fallback switched restored) (region : Option String)
    (start : σ) :
    (fallback.attempt region).run start = match fallback.provisionOnce.run start with
      | .ok () exit => .ok none exit
      | .error exc failed =>
        if fallback.isCapacityError exc then
          match (fallback.cleanupRegion region).run failed with
          | .ok () after => .ok (some exc) after
          | .error error after => .error error after
        else .error exc (restored failed) := by
  rw [attempt, run_bind, run_tryCatch, run_bind]
  cases fallback.provisionOnce.run start with
  | ok value exit => rfl
  | error exc failed =>
    cases capacity : fallback.isCapacityError exc with
    | true =>
      simp only [capacity, ↓reduceIte, run_pure]
      rw [run_bind]
      cases (fallback.cleanupRegion region).run failed with
      | ok value after => rfl
      | error error after => rfl
    | false => simp [capacity, settled.restores]

variable {region : Option String} {start exit : σ}

lemma attempt_succeeded (settled : Settled fallback switched restored)
    (ran : (fallback.attempt region).run start = .ok none exit) :
    fallback.provisionOnce.run start = .ok () exit := by
  rw [attempt_run settled] at ran
  split at ran
  · simp_all
  · split at ran
    · split at ran <;> simp at ran
    · simp at ran

variable {entry : σ} {error : Exc}

section

variable (settled : Settled fallback switched restored)

include settled

lemma ended_of_attempt_raised (attempted : Attempted fallback entry region start)
    (ran : (fallback.attempt region).run start = .error error exit) :
    Ended fallback restored entry (.error error exit) := by
  rw [attempt_run settled] at ran
  cases provisioned : fallback.provisionOnce.run start with
  | ok value after => simp [provisioned] at ran
  | error exc failed =>
    simp only [provisioned] at ran
    split at ran
    · rename_i capacity
      cases cleaned : (fallback.cleanupRegion region).run failed with
      | ok value after => simp [cleaned] at ran
      | error raised after =>
        simp only [cleaned, EStateM.Result.error.injEq] at ran
        obtain ⟨rfl, rfl⟩ := ran
        exact .cleanupRaised attempted provisioned capacity cleaned
    · rename_i hard
      obtain ⟨rfl, rfl⟩ := ran
      exact .propagated attempted provisioned (by simpa using hard)

lemma ended_of_exhausted {state : σ}
    (triedRegions : List String) (lastError : Exc) :
    Ended fallback restored entry ((fallback.exhausted triedRegions lastError).run state) := by
  obtain ⟨error, exit, built⟩ := settled.builds
    (exhaustedMessage fallback.originalRegion triedRegions lastError) (restored state)
  have ran : (fallback.exhausted triedRegions lastError).run state = .error error exit := by
    simp [RegionFallback.exhausted, settled.restores, built]
  rw [ran]
  exact .exhausted built

lemma candidates_step_raised {middle ready : σ}
    {steps : List (EStateM Exc σ (Option Candidate))}
    (began : fallback.candidates.start.run middle = .ok steps ready)
    {step : EStateM Exc σ (Option Candidate)} (listed : step ∈ steps) {state after : σ}
    (ran : step.run state = .error error after) :
    ∃ reached, after = restored reached := by
  obtain ⟨bare, _, _, paired⟩ := bind_ok_iff.mp began
  simp only [run_pure, EStateM.Result.ok.injEq] at paired
  rw [← paired.1] at listed
  obtain ⟨inner, _, rfl⟩ := List.mem_map.mp listed
  rw [restoringOnRaise_run settled.restores] at ran
  split at ran
  · simp at ran
  · simp only [EStateM.Result.error.injEq] at ran
    exact ⟨_, ran.2.symm⟩

lemma candidates_start_raised {middle after : σ}
    (ran : fallback.candidates.start.run middle = .error error after) :
    ∃ reached, after = restored reached := by
  obtain threw | ⟨_, _, _, paired⟩ := bind_error_iff.mp ran
  · rw [restoringOnRaise_run settled.restores] at threw
    split at threw
    · simp at threw
    · simp only [EStateM.Result.error.injEq] at threw
      exact ⟨_, threw.2.symm⟩
  · simp at paired

lemma run_ended (entry : σ) :
    Ended fallback restored entry (fallback.run.run entry) := by
  rw [run, run_bind]
  cases first : (fallback.attempt fallback.originalRegion).run entry with
  | error error exit => exact ended_of_attempt_raised settled .configured first
  | ok failure middle =>
    cases failure with
    | none => exact .succeeded .configured (attempt_succeeded settled first)
    | some exc =>
      simp only
      rw [run_bind]
      cases began : fallback.candidates.start.run middle with
      | error error exit =>
        obtain ⟨reached, rfl⟩ := candidates_start_raised settled began
        exact .candidatesRaised
      | ok steps ready =>
        simp only
        rw [run_bind]
        obtain ⟨last, after, passes⟩ | ⟨before, step, rest, last, reached, split, passes, ended⟩ :=
          foldUntil_cases fallback.relocate ([], exc) steps ready
        · rw [foldUntil_passed passes]
          exact ended_of_exhausted settled last.1 last.2
        · have listed : step ∈ steps := by simp [split]
          rw [split, foldUntil_reached passes]
          cases probed : step.run reached with
          | error error exit =>
            obtain ⟨state, rfl⟩ := candidates_step_raised settled began listed probed
            simp [relocate, probed, Ended.candidatesRaised]
          | ok target found =>
            cases target with
            | none => simp [relocate, probed] at ended
            | some target =>
              have attempted : Attempted fallback entry (some target.1)
                  (switched target.1 target.2 found) :=
                .relocated first began split passes probed (settled.switches _ _ _)
              cases tried : (fallback.attempt (some target.1)).run
                  (switched target.1 target.2 found) with
              | error error exit =>
                simp only [relocate, run_bind, probed, settled.switches, tried]
                exact ended_of_attempt_raised settled attempted tried
              | ok failure exit =>
                cases failure with
                | none =>
                  simp only [relocate, run_bind, probed, settled.switches, tried,
                    run_pure]
                  exact .succeeded attempted (attempt_succeeded settled tried)
                | some exc => simp [relocate, probed, settled.switches, tried] at ended

end

lemma run_of_attempt_raised (attempted : Attempted fallback entry region start)
    (ran : (fallback.attempt region).run start = .error error exit) :
    fallback.run.run entry = .error error exit := by
  cases attempted with
  | configured => rw [run, run_bind, ran]
  | relocated failed began split passes yielded switched =>
    rw [run, run_bind, failed]
    simp only
    rw [run_bind, began]
    simp only
    rw [run_bind, split, foldUntil_reached passes]
    simp [relocate, yielded, switched, ran]

lemma run_of_cleanup_raised (settled : Settled fallback switched restored) {failed : σ}
    {exc : Exc} (attempted : Attempted fallback entry region start)
    (ran : fallback.provisionOnce.run start = .error exc failed)
    (capacity : fallback.isCapacityError exc = true)
    (raised : (fallback.cleanupRegion region).run failed = .error error exit) :
    fallback.run.run entry = .error error exit := by
  apply run_of_attempt_raised attempted
  rw [attempt_run settled, ran]
  simp [capacity, raised]

end Sct.RegionFallback
