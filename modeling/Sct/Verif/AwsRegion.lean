import Sct.Provision.Aws.Layout
import Sct.Provision.Common.RegionRuns
import Sct.Verif.AwsSwitch

/-!
# Where AWS region fallback leaves the placement

`_provision_with_region_fallback` promises to restore the original placement before it raises.
Only the attempt is guarded by a restore. Three other steps can raise after a relocation: the
computation of the candidates (after the upfront relocation), a switch that fails for another
reason than a missing AMI, and the cleanup of an exhausted region. The promise is kept exactly
when none of the three raises while the placement differs from the one at entry.
-/

open Sct.Effect
open EStateM (run_bind run_get)

namespace Sct.Aws

variable {κ : Type}

/-! ## What an attempt leaves alone -/

/-- A property that depends neither on `availability_zone` nor on the cloud. -/
def Steady (holds : World κ → Prop) : Prop :=
  ∀ world part, holds world → holds (World.withZonesAndCloud part world)

section Steady

variable {holds : World κ → Prop} (steady : Steady holds)

include steady

variable {α : Type}

lemma Steady.query (query : Query κ α) : Keeps holds query.lift :=
  fun world before => keeps_zoom World.cloud World.withCloud (query world.settings)
    (fun cloud world kept =>
      steady world (world.settings.placement.availabilityZone, cloud) kept) world before

lemma Steady.zoneStep (step : ZoneStep κ α) : Keeps holds step.lift :=
  fun world before => keeps_zoom World.zonesAndCloud World.withZonesAndCloud
    (step world.settings) (fun part world => steady world part) world before

lemma Steady.writeAvailabilityZone (value : Option String) :
    Keeps holds (writeAvailabilityZone value : Action κ Unit) :=
  keeps_modify _ fun world kept => steady world (value, world.cloud) kept

variable (layout : Layout κ) (config : Config)

lemma Steady.clusters : Keeps holds (do
    layout.provisionMonitors.lift
    layout.provisionLoaders.lift
    layout.provisionCsDb.lift) :=
  keeps_bind (steady.query _) fun _ => keeps_bind (steady.query _) fun _ => steady.query _

lemma Steady.doProvision : Keeps holds (layout.doProvision config) := by
  refine keeps_bind (steady.query _) fun _ => ?_
  refine keeps_bind (steady.query _) fun _ => ?_
  refine keeps_bind (steady.zoneStep _) fun _ => ?_
  refine keeps_bind (steady.zoneStep _) fun _ => ?_
  split
  · exact keeps_bind (steady.query _) fun _ => steady.clusters layout
  · exact steady.clusters layout

lemma Steady.provisionUnless (absorbed : Exc → Bool) :
    Keeps holds (layout.provisionUnless config absorbed) := by
  refine keeps_tryCatch ?_ fun exc => ?_
  · exact keeps_bind (steady.doProvision layout config) fun _ => keeps_pure _
  · split
    · exact keeps_pure _
    · exact keeps_throw _

lemma Steady.azAttempt (carried : Nat × Option Exc) (candidate : List String) :
    Keeps holds (layout.azAttempt config carried candidate) := by
  refine keeps_bind (steady.writeAvailabilityZone _) fun _ => ?_
  split
  on_goal 1 =>
    refine keeps_bind (keeps_modify _ fun world kept => ?_) fun _ => ?_
    · exact steady world (world.settings.placement.availabilityZone, _) kept
  all_goals
    refine keeps_bind (steady.provisionUnless layout config _) fun outcome => ?_
    split
    · exact keeps_bind (steady.query _) fun _ => keeps_pure _
    · exact keeps_pure _

lemma Steady.provisionAzLoop (candidates : List (List String)) :
    Keeps holds (layout.provisionAzLoop config candidates) := by
  refine keeps_bind keeps_get fun entry => ?_
  refine keeps_bind (keeps_foldUntil candidates
    (fun carried candidate _ => steady.azAttempt layout config carried candidate) _)
    fun outcome => ?_
  split
  · exact keeps_pure _
  · exact keeps_bind (steady.writeAvailabilityZone _) fun _ => keeps_pure _

lemma Steady.attemptRegion : Keeps holds (layout.attemptRegion config) := by
  refine keeps_bind (steady.zoneStep _) fun _ => ?_
  split
  · exact steady.provisionUnless layout config _
  · split
    · exact steady.provisionUnless layout config _
    · refine keeps_bind (steady.query _) fun candidates => ?_
      split
      · exact steady.provisionUnless layout config _
      · exact steady.provisionAzLoop layout config _

end Steady

def InRegions (placement : Placement) (world : World κ) : Prop :=
  world.settings.placement.SameRegions placement

/-! ## What a switch and a restore do to the placement -/

variable {sourceRegion : Option String} {invalidateCaches : κ → κ} {azLetters : List String}
  {world after : World κ} {config : Config} {region : String} {api : Api κ}

lemma switchRegion_error_placement {exc : Exc}
    (raised : (switchRegion config api region azLetters sourceRegion invalidateCaches).run world =
      .error exc after) : after.settings.placement = world.settings.placement := by
  rw [switchRegion_error_iff] at raised
  by_cases aws : config.clusterBackend = "aws"
  · obtain ⟨part, _, rfl⟩ | ⟨part, cloud, _, _, rfl⟩ :=
      (resolveAmis_error_iff config api aws _ _ _ _ _).mp raised
    · rfl
    · rfl
  · simp [resolveAmis, aws] at raised

lemma switchRegion_ok_placement
    (ran : (switchRegion config api region azLetters sourceRegion invalidateCaches).run world =
      .ok () after) : after.settings.placement = .moved region azLetters := by
  obtain ⟨middle, _, rfl⟩ := (switchRegion_ok_iff config api _ _ _ _ _ _).mp ran
  rfl

namespace Layout

variable (layout : Layout κ) (config : Config) (api : Api κ)

def restoredTo (entry : Placement) (world : World κ) : World κ where
  settings :=
    { world.settings with
      placement := world.settings.placement.restored entry.configuredRegions.head?
        entry.availabilityZone entry.envRegion }
  cloud := world.cloud
  history := world.history ++ [.restore world.settings]

lemma restoreEntry_run (entry : Placement) (world : World κ) :
    (restoreEntry entry).run world = .ok () (restoredTo entry world) := rfl

lemma relocateToPreferredSpotRegion_placement (entry : World κ) :
    match (layout.relocateToPreferredSpotRegion config api).run entry with
    | .ok () ready => ready.settings.placement = entry.settings.placement ∨
        ∃ region azLetters, ready.settings.placement = .moved region azLetters
    | .error _ after => after.settings.placement = entry.settings.placement := by
  rw [relocateToPreferredSpotRegion, run_bind]
  cases preferred : layout.getPreferredSpotRegion.lift.run entry with
  | error exc after =>
    obtain ⟨cloud, _, rfl⟩ := query_error preferred
    rfl
  | ok choice middle =>
    obtain ⟨cloud, _, rfl⟩ := query_ok preferred
    cases choice with
    | none => exact .inl rfl
    | some target =>
      obtain ⟨region, azLetters⟩ := target
      simp only
      rw [run_bind, run_get]
      simp only [run_tryCatch]
      cases switched : (layout.switchRegion config api region azLetters
        (entry.withCloud cloud).settings.placement.configuredRegions.head?).run
          (entry.withCloud cloud) with
      | ok value ready => exact .inr ⟨region, azLetters, switchRegion_ok_placement switched⟩
      | error exc after =>
        have same := switchRegion_error_placement switched
        exact .inl same

/-! ## The points of a run -/

/-- The run that starts in `entry` gets to enter a region (`none` for the one it is in), with
these local variables and in this world. -/
structure Entering (entry : World κ) (candidate : Option Candidate)
    (carried : Option String × Option Exc) (middle : World κ) : Prop where
  reached : ∃ ready regionCandidates listed before rest,
    (layout.relocateToPreferredSpotRegion config api).run entry = .ok () ready ∧
    layout.getRegionFallbackCandidates.lift.run ready = .ok regionCandidates listed ∧
    none :: regionCandidates.map some = before ++ candidate :: rest ∧
    Passes (layout.regionAttempt config api entry.settings.placement)
      (startRegion entry.settings.placement ready, none) before listed carried middle

/-- The run that starts in `entry` gets to provision in a region. -/
def Attempting (entry : World κ) (sourceRegion : Option String) (start : World κ) : Prop :=
  ∃ candidate carried middle, layout.Entering config api entry candidate carried middle ∧
    (layout.enterRegion config api carried.1 candidate).run middle = .ok (.inr sourceRegion) start

/-- A run raises with the placement it started from, or returns with the placement of the region
whose attempt succeeded. -/
structure SettlesPlacement (entry : World κ) : Prop where
  raised : ∀ exc exit, (layout.provisionWithRegionFallback config api).run entry =
    .error exc exit → exit.settings.placement = entry.settings.placement
  returned : ∀ exit, (layout.provisionWithRegionFallback config api).run entry = .ok () exit →
    ∃ region sourceRegion start lastError,
      layout.Attempting config api entry sourceRegion start ∧
      start.settings.placement.TriedWith entry.settings.placement region ∧
      (layout.attemptRegion config).run start = .ok (false, lastError) exit ∧
      exit.settings.placement.SameRegions start.settings.placement

/-- No step that is not guarded by a restore raises while the placement differs from the one at
entry. -/
structure UnguardedRaiseAtEntryOnly (entry : World κ) : Prop where
  candidates : ∀ ready exc after,
    (layout.relocateToPreferredSpotRegion config api).run entry = .ok () ready →
    layout.getRegionFallbackCandidates.lift.run ready = .error exc after →
    ready.settings.placement = entry.settings.placement
  switches : ∀ region azLetters carried middle exc after,
    layout.Entering config api entry (some (region, azLetters)) carried middle →
    (layout.switchRegion config api region azLetters carried.1).run middle = .error exc after →
    exc.cls ≠ .regionAMINotFoundError →
    middle.settings.placement = entry.settings.placement
  cleanups : ∀ sourceRegion start lastError failed exc after,
    layout.Attempting config api entry sourceRegion start →
    (layout.attemptRegion config).run start = .ok (true, lastError) failed →
    (layout.cleanupRegion config api sourceRegion).run failed = .error exc after →
    failed.settings.placement = entry.settings.placement

variable {layout config api}

/-- Entering a region: staying, a switch, a region without AMIs, or a switch that fails. -/
lemma enterRegion_run (sourceRegion : Option String) (region : String) (azLetters : List String)
    (middle : World κ) :
    (layout.enterRegion config api sourceRegion (some (region, azLetters))).run middle =
      match (layout.switchRegion config api region azLetters sourceRegion).run middle with
      | .ok () start => .ok (.inr (some region)) start
      | .error exc after =>
        if exc.cls = .regionAMINotFoundError then .ok (.inl exc) after
        else .error exc after := by
  rw [enterRegion, run_tryCatch, run_bind]
  cases (layout.switchRegion config api region azLetters sourceRegion).run middle with
  | ok value start => rfl
  | error exc after =>
    simp only
    split <;> rfl

variable {entry : World κ}

lemma Attempting.triedWith (single : entry.settings.placement.configuredRegions.length = 1)
    {sourceRegion : Option String} {start : World κ}
    (attempting : layout.Attempting config api entry sourceRegion start) :
    ∃ region, start.settings.placement.TriedWith entry.settings.placement region := by
  obtain ⟨candidate, carried, middle, ⟨ready, candidates, listed, before, rest, relocated, computed,
    split, passes⟩, entered⟩ := attempting
  cases candidate with
  | some target =>
    obtain ⟨region, azLetters⟩ := target
    rw [enterRegion_run] at entered
    cases switched : (layout.switchRegion config api region azLetters carried.1).run middle with
    | ok value reached =>
      rw [switched] at entered
      obtain ⟨_, rfl⟩ := EStateM.Result.ok.inj entered
      exact ⟨region, .inr ⟨azLetters, switchRegion_ok_placement switched⟩⟩
    | error exc after =>
      simp only [switched] at entered
      split at entered
      · simp at entered
      · simp at entered
  | none =>
    have first : before = [] := by
      cases before with
      | nil => rfl
      | cons head tail =>
        have inside : (none : Option Candidate) ∈ candidates.map some := by
          rw [(List.cons.inj split).2]
          simp
        simp at inside
    subst first
    cases passes
    obtain ⟨_, rfl⟩ := EStateM.Result.ok.inj entered
    obtain ⟨cloud, _, rfl⟩ := query_ok computed
    have placed := layout.relocateToPreferredSpotRegion_placement config api entry
    rw [relocated] at placed
    obtain same | ⟨region, azLetters, moved⟩ := placed
    · obtain ⟨name, names⟩ := List.length_eq_one_iff.mp single
      exact ⟨name, .inl ⟨names, same⟩⟩
    · exact ⟨region, .inr ⟨azLetters, moved⟩⟩

lemma tryRegion_run (entry : Placement) (sourceRegion : Option String) (lastError : Option Exc)
    (start : World κ) :
    (layout.tryRegion config api entry sourceRegion lastError).run start =
      match (layout.attemptRegion config).run start with
      | .ok (false, _) exit => .ok (.inr ()) exit
      | .ok (true, attemptError) failed =>
        match (layout.cleanupRegion config api sourceRegion).run failed with
        | .ok () after => .ok (.inl (sourceRegion, attemptError.orElse fun _ => lastError)) after
        | .error exc after => .error exc after
      | .error exc failed => .error exc (restoredTo entry failed) := by
  rw [tryRegion, run_bind, RegionFallback.restoringOnRaise_run (restoreEntry_run entry)]
  cases (layout.attemptRegion config).run start with
  | error exc failed => rfl
  | ok outcome failed =>
    obtain ⟨exhausted, attemptError⟩ := outcome
    cases exhausted with
    | false => rfl
    | true =>
      simp only
      rw [run_bind]
      cases (layout.cleanupRegion config api sourceRegion).run failed <;> rfl

variable {carried : Option String × Option Exc} {candidate : Option Candidate} {middle : World κ}
  {exit : World κ} {after : World κ} {exc : Exc}

/-- Every way an iteration can raise: in the switch, in the attempt (restored) or in the
cleanup. -/
lemma regionAttempt_raised {entry : Placement}
    (ran : (layout.regionAttempt config api entry carried candidate).run middle =
      .error exc after) :
    (∃ region azLetters, candidate = some (region, azLetters) ∧
      (layout.switchRegion config api region azLetters carried.1).run middle = .error exc after ∧
      exc.cls ≠ .regionAMINotFoundError) ∨
    (∃ failed, after = restoredTo entry failed) ∨
    ∃ sourceRegion start lastError failed,
      (layout.enterRegion config api carried.1 candidate).run middle =
        .ok (.inr sourceRegion) start ∧
      (layout.attemptRegion config).run start = .ok (true, lastError) failed ∧
      (layout.cleanupRegion config api sourceRegion).run failed = .error exc after := by
  obtain threw | ⟨entered, start, opened, rest⟩ := bind_error_iff.mp ran
  · cases candidate with
    | none => simp [enterRegion] at threw
    | some target =>
      obtain ⟨region, azLetters⟩ := target
      rw [enterRegion_run] at threw
      cases switched : (layout.switchRegion config api region azLetters carried.1).run middle with
      | ok value reached => simp [switched] at threw
      | error raised reached =>
        simp only [switched] at threw
        split at threw
        · simp at threw
        · rename_i other
          obtain ⟨rfl, rfl⟩ := EStateM.Result.error.inj threw
          exact .inl ⟨region, azLetters, rfl, switched, other⟩
  · cases entered with
    | inl skipped => simp at rest
    | inr sourceRegion =>
      simp only [tryRegion_run] at rest
      split at rest
      · simp at rest
      · rename_i lastError failed attempted
        split at rest
        · simp at rest
        · rename_i raised reached cleaned
          obtain ⟨rfl, rfl⟩ := EStateM.Result.error.inj rest
          exact .inr (.inr ⟨sourceRegion, start, lastError, failed, opened, attempted, cleaned⟩)
      · rename_i raised failed attempted
        obtain ⟨_, rfl⟩ := EStateM.Result.error.inj rest
        exact .inr (.inl ⟨failed, rfl⟩)

/-! ## Whole runs -/

lemma provisionWithRegionFallback_run (entry : World κ)
    (single : entry.settings.placement.configuredRegions.length = 1) :
    (layout.provisionWithRegionFallback config api).run entry =
      match (layout.relocateToPreferredSpotRegion config api).run entry with
      | .ok () ready => (layout.fallbackFrom config api entry.settings.placement).run ready
      | .error exc after => .error exc after := by
  have gate : (enforceSingleRegionGate : Action κ Unit).run entry = .ok () entry := by
    rw [enforceSingleRegionGate, run_bind, run_get]
    simp only [single, ↓reduceIte, EStateM.run_pure]
  unfold provisionWithRegionFallback
  rw [run_bind, gate]
  simp only
  rw [run_bind, run_get]
  simp only
  rw [run_bind]
  cases (layout.relocateToPreferredSpotRegion config api).run entry <;> rfl

lemma provisionWithRegionFallback_rejected (entry : World κ)
    (several : entry.settings.placement.configuredRegions.length ≠ 1) :
    ∃ exc, (layout.provisionWithRegionFallback config api).run entry = .error exc entry := by
  have gate : ∃ exc, (enforceSingleRegionGate : Action κ Unit).run entry = .error exc entry := by
    rw [enforceSingleRegionGate, run_bind, run_get]
    simp only [several, ↓reduceIte]
    exact ⟨_, rfl⟩
  obtain ⟨exc, raised⟩ := gate
  refine ⟨exc, ?_⟩
  rw [provisionWithRegionFallback, run_bind, raised]

lemma fallbackFrom_run (entry : Placement) (ready : World κ) :
    (layout.fallbackFrom config api entry).run ready =
      match layout.getRegionFallbackCandidates.lift.run ready with
      | .error exc after => .error exc after
      | .ok regionCandidates listed =>
        match (foldUntil (layout.regionAttempt config api entry) (startRegion entry ready, none)
            (none :: regionCandidates.map some)).run listed with
        | .error exc after => .error exc after
        | .ok (.inr ()) exit => .ok () exit
        | .ok (.inl _) last => .error
          (regionsExhausted entry.configuredRegions.head? regionCandidates)
            (restoredTo entry last) := by
  unfold fallbackFrom
  rw [run_bind, run_get]
  simp only
  rw [run_bind]
  cases layout.getRegionFallbackCandidates.lift.run ready with
  | error exc after => rfl
  | ok regionCandidates listed =>
    simp only
    rw [run_bind]
    cases (foldUntil (layout.regionAttempt config api entry) (startRegion entry ready, none)
      (none :: regionCandidates.map some)).run listed with
    | error exc after => rfl
    | ok outcome last =>
      cases outcome with
      | inl carried => rfl
      | inr done => rfl

lemma run_of_entering_raised (single : entry.settings.placement.configuredRegions.length = 1)
    (entering : layout.Entering config api entry candidate carried middle)
    (raised : (layout.regionAttempt config api entry.settings.placement carried candidate).run
      middle = .error exc after) :
    (layout.provisionWithRegionFallback config api).run entry = .error exc after := by
  obtain ⟨ready, regionCandidates, listed, before, rest, relocated, computed, split, passes⟩ :=
    entering
  rw [provisionWithRegionFallback_run entry single, relocated]
  simp only
  rw [fallbackFrom_run, computed]
  simp only
  rw [split, foldUntil_reached passes, raised]

lemma provisionWithRegionFallback_cases (entry : World κ)
    (single : entry.settings.placement.configuredRegions.length = 1) :
    (∃ exc after, (layout.relocateToPreferredSpotRegion config api).run entry = .error exc after ∧
      (layout.provisionWithRegionFallback config api).run entry = .error exc after) ∨
    (∃ ready exc after,
      (layout.relocateToPreferredSpotRegion config api).run entry = .ok () ready ∧
      layout.getRegionFallbackCandidates.lift.run ready = .error exc after ∧
      (layout.provisionWithRegionFallback config api).run entry = .error exc after) ∨
    (∃ exc last, (layout.provisionWithRegionFallback config api).run entry =
      .error exc (restoredTo entry.settings.placement last)) ∨
    ∃ candidate carried middle, layout.Entering config api entry candidate carried middle ∧
      ((∃ exc after, (layout.regionAttempt config api entry.settings.placement carried
          candidate).run middle = .error exc after ∧
        (layout.provisionWithRegionFallback config api).run entry = .error exc after) ∨
      ∃ exit, (layout.regionAttempt config api entry.settings.placement carried candidate).run
          middle = .ok (.inr ()) exit ∧
        (layout.provisionWithRegionFallback config api).run entry = .ok () exit) := by
  have run := @provisionWithRegionFallback_run κ layout config api entry single
  cases relocated : (layout.relocateToPreferredSpotRegion config api).run entry with
  | error exc after => exact .inl ⟨exc, after, rfl, by rw [run, relocated]⟩
  | ok value ready =>
    rw [relocated] at run
    simp only [fallbackFrom_run] at run
    cases computed : layout.getRegionFallbackCandidates.lift.run ready with
    | error exc after => exact .inr (.inl ⟨ready, exc, after, rfl, computed, by rw [run, computed]⟩)
    | ok regionCandidates listed =>
      simp only [computed] at run
      obtain ⟨last, after, passes⟩ | ⟨before, candidate, rest, last, middle, split, passes, ended⟩ :=
        foldUntil_cases (layout.regionAttempt config api entry.settings.placement)
          (startRegion entry.settings.placement ready, none) (none :: regionCandidates.map some)
          listed
      · rw [foldUntil_passed passes] at run
        exact .inr (.inr (.inl ⟨_, after, run⟩))
      · have entering : layout.Entering config api entry candidate last middle :=
          ⟨ready, regionCandidates, listed, before, rest, relocated, computed, split, passes⟩
        rw [split, foldUntil_reached passes] at run
        refine .inr (.inr (.inr ⟨candidate, last, middle, entering, ?_⟩))
        obtain ⟨result, exit, returned⟩ | ⟨exc, after, threw⟩ := ended
        · exact .inr ⟨exit, returned, by rw [run, returned]⟩
        · exact .inl ⟨exc, after, threw, by rw [run, threw]⟩

lemma regionAttempt_returned_placement
    (single : entry.settings.placement.configuredRegions.length = 1)
    (entering : layout.Entering config api entry candidate carried middle)
    (returned : (layout.regionAttempt config api entry.settings.placement carried candidate).run
      middle = .ok (.inr ()) exit) :
    ∃ region sourceRegion start lastError,
      layout.Attempting config api entry sourceRegion start ∧
      start.settings.placement.TriedWith entry.settings.placement region ∧
      (layout.attemptRegion config).run start = .ok (false, lastError) exit ∧
      exit.settings.placement.SameRegions start.settings.placement := by
  obtain ⟨sourceRegion, start, lastError, opened, attempted⟩ : ∃ sourceRegion start lastError,
      (layout.enterRegion config api carried.1 candidate).run middle = .ok (.inr sourceRegion) start
      ∧ (layout.attemptRegion config).run start = .ok (false, lastError) exit := by
    obtain ⟨entered, start, opened, rest⟩ := bind_ok_iff.mp returned
    cases entered with
    | inl exc => simp at rest
    | inr sourceRegion =>
      simp only [tryRegion_run] at rest
      split at rest
      · rename_i lastError reached attempted
        obtain ⟨_, rfl⟩ := EStateM.Result.ok.inj rest
        exact ⟨sourceRegion, start, lastError, opened, attempted⟩
      · split at rest <;> simp at rest
      · simp at rest
  have attempting : layout.Attempting config api entry sourceRegion start :=
    ⟨candidate, carried, middle, entering, opened⟩
  obtain ⟨region, tried⟩ := attempting.triedWith single
  refine ⟨region, sourceRegion, start, lastError, attempting, tried, attempted, ?_⟩
  have steady : Steady (InRegions start.settings.placement : World κ → Prop) := fun _ _ same => same
  exact (steady.attemptRegion layout config).of_ok ⟨rfl, rfl⟩ attempted

lemma SettlesPlacement.unguarded (settles : layout.SettlesPlacement config api entry)
    (single : entry.settings.placement.configuredRegions.length = 1) :
    layout.UnguardedRaiseAtEntryOnly config api entry := by
  constructor
  · intro ready exc after relocated computed
    have ran : (layout.provisionWithRegionFallback config api).run entry = .error exc after := by
      rw [provisionWithRegionFallback_run entry single, relocated]
      simp only
      rw [fallbackFrom_run, computed]
    have restored := settles.raised exc after ran
    obtain ⟨cloud, _, rfl⟩ := query_error computed
    exact restored
  · intro region azLetters carried middle exc after entering switched other
    have raised : (layout.regionAttempt config api entry.settings.placement carried
        (some (region, azLetters))).run middle = .error exc after := by
      rw [regionAttempt, run_bind, enterRegion_run, switched]
      simp only [other, ↓reduceIte]
    have restored := settles.raised exc after (run_of_entering_raised single entering raised)
    rw [← restored]
    exact (switchRegion_error_placement switched).symm
  · intro sourceRegion start lastError failed exc after attempting attempted cleaned
    obtain ⟨candidate, carried, middle, entering, opened⟩ := attempting
    have raised : (layout.regionAttempt config api entry.settings.placement carried
        candidate).run middle = .error exc after := by
      rw [regionAttempt, run_bind, opened]
      simp only [tryRegion_run, attempted, cleaned]
    have restored := settles.raised exc after (run_of_entering_raised single entering raised)
    obtain ⟨cloud, _, rfl⟩ := query_error cleaned
    exact restored

/-- AWS region fallback settles the placement exactly when no step outside the guarded attempt
raises while the placement differs from the one at entry. -/
theorem fallback_settles_iff (entry : World κ) (loaded : entry.settings.placement.Loaded) :
    layout.SettlesPlacement config api entry ↔
      (entry.settings.placement.configuredRegions.length = 1 →
        layout.UnguardedRaiseAtEntryOnly config api entry) := by
  constructor
  · exact SettlesPlacement.unguarded
  · intro safe
    by_cases single : entry.settings.placement.configuredRegions.length = 1
    · have guarded := safe single
      have restores := Placement.restored_of_loaded loaded single
      have placed := layout.relocateToPreferredSpotRegion_placement config api entry
      obtain ⟨exc, after, relocated, run⟩ | ⟨ready, exc, after, relocated, computed, run⟩ |
        ⟨exc, last, run⟩ | ⟨candidate, carried, middle, entering, ⟨exc, after, threw, run⟩ |
          ⟨exit, returned, run⟩⟩ := @provisionWithRegionFallback_cases κ layout config api entry
            single
      · rw [relocated] at placed
        exact ⟨by simp [run, placed], by simp [run]⟩
      · have reached := guarded.candidates ready exc after relocated computed
        obtain ⟨cloud, _, rfl⟩ := query_error computed
        have kept : (ready.withCloud cloud).settings.placement = entry.settings.placement := reached
        exact ⟨by simp [run, kept], by simp [run]⟩
      · have kept : (restoredTo entry.settings.placement last).settings.placement =
          entry.settings.placement := restores _
        exact ⟨by simp [run, kept], by simp [run]⟩
      · have kept : after.settings.placement = entry.settings.placement := by
          obtain ⟨region, azLetters, rfl, switched, other⟩ | ⟨failed, rfl⟩ |
            ⟨sourceRegion, start, lastError, failed, opened, attempted, cleaned⟩ :=
              regionAttempt_raised threw
          · rw [switchRegion_error_placement switched]
            exact guarded.switches region azLetters carried middle exc after entering switched other
          · exact restores _
          · have reached := guarded.cleanups sourceRegion start lastError failed exc after
              ⟨candidate, carried, middle, entering, opened⟩ attempted cleaned
            obtain ⟨cloud, _, rfl⟩ := query_error cleaned
            exact reached
        exact ⟨by simp [run, kept], by simp [run]⟩
      · have settled := regionAttempt_returned_placement single entering returned
        refine ⟨by simp [run], fun reached ran => ?_⟩
        rw [run] at ran
        obtain ⟨_, rfl⟩ := EStateM.Result.ok.inj ran
        exact settled
    · obtain ⟨exc, rejected⟩ := @provisionWithRegionFallback_rejected κ layout config api entry
        single
      exact ⟨by simp [rejected], by simp [rejected]⟩

end Layout

/-! ## Candidates that cannot be computed after the upfront relocation -/

def throttled : Layout Unit where
  resolve := pure ()
  getFallbackCandidates := pure []
  getRegionFallbackCandidates := throw (.raised (.clientError ["Throttling"]) "Rate exceeded")
  getPreferredSpotRegion := pure (some ("us-west-2", ["b"]))
  getDcFallbackCandidates _ := pure []
  runPreFlightCapacityProbe := pure ()
  provisionPlacementGroup := pure ()
  reserveCapacity := pure ()
  reserveHosts := pure ()
  provisionDb _ := pure ()
  provisionMonitors := pure ()
  provisionLoaders := pure ()
  provisionCsDb := pure ()
  cleanupPartialProvision := pure ()
  terminateDcInstances _ := pure ()
  provisionedDbRegions _ := []
  clearClusterCaches := id
  invalidateRegionDerivedCaches := id

def eastDbWorld : World Unit where
  settings :=
    { placement := ⟨none, some "us-east-1", some "a"⟩
      amis := fun
        | .amiIdDbScylla => some "ami-db-east"
        | _ => none
      targetDbImageIds := [] }
  cloud := ()
  history := []

/-- The cluster is relocated upfront and the candidates cannot be computed: the run raises with
the placement of the preferred region. -/
theorem throttled_leaves_relocation :
    ¬ throttled.SettlesPlacement awsConfig dbImageOnly eastDbWorld := by
  intro settles
  have raised : ∃ exc after,
      (throttled.provisionWithRegionFallback awsConfig dbImageOnly).run eastDbWorld =
        .error exc after ∧ after.settings.placement = .moved "us-west-2" ["b"] :=
    ⟨_, _, rfl, by decide⟩
  obtain ⟨exc, after, ran, moved⟩ := raised
  rw [settles.raised exc after ran] at moved
  exact absurd moved (by decide)

/-- The exact condition, for the run above. -/
theorem fallback_settles_iff_throttled :
    throttled.SettlesPlacement awsConfig dbImageOnly eastDbWorld ↔
      (eastDbWorld.settings.placement.configuredRegions.length = 1 →
        throttled.UnguardedRaiseAtEntryOnly awsConfig dbImageOnly eastDbWorld) :=
  Layout.fallback_settles_iff eastDbWorld fun _ => by decide

end Sct.Aws
