import Sct.Provision.Gce.RegionFallback

/-!
# The settings after the single-region fallback

The single-region loop moves `SCT_GCE_DATACENTER`, `gce_datacenter` and `availability_zone` from
region to region. A run should return with the settings of the region that was provisioned, or
raise with the settings it started from. Every raise is guarded by a restore except one: the
cleanup of an exhausted region runs outside the guard. The promise holds exactly when no
`partial_cleanup` raises while the settings differ from those at entry.
-/

open Sct.Effect Sct.RegionFallback
open EStateM (run_bind run_get run_pure)

namespace Sct.Gce

variable {κ : Type}

/-! ## What callbacks leave alone -/

/-- Whichever way it ends, the action leaves the two settings that name regions alone. -/
def KeepsRegions {α : Type} (action : Action κ α) : Prop :=
  ∀ origin : Placement, Keeps (fun world => world.placement.SameRegions origin) action

variable {α : Type} {world after : World κ} {action : Action κ α}

lemma KeepsRegions.of_ok (keeps : KeepsRegions action) {value : α}
    (ran : action.run world = .ok value after) : after.placement.SameRegions world.placement :=
  (keeps world.placement).of_ok ⟨rfl, rfl⟩ ran

lemma KeepsRegions.of_error (keeps : KeepsRegions action) {exc : Exc}
    (ran : action.run world = .error exc after) : after.placement.SameRegions world.placement :=
  (keeps world.placement).of_error ⟨rfl, rfl⟩ ran

variable {holds : World κ → Prop} (query : Query κ α)

lemma lift_keeps (any : ∀ world cloud, holds world → holds { world with cloud := cloud }) :
    Keeps holds query.lift := by
  intro world kept
  rw [lift_run]
  cases (query world.placement).run world.cloud with
  | ok value cloud => exact any world cloud kept
  | error exc cloud => exact any world cloud kept

lemma lift_keepsRegions : KeepsRegions query.lift :=
  fun _ => lift_keeps query fun _ _ kept => kept

variable (step : ProvisionStep κ)

lemma provisionStep_keepsRegions : KeepsRegions step.action := by
  intro origin world kept
  rw [action_run]
  cases (step.body world.placement).run (world.placement.availabilityZone, world.cloud) with
  | ok value after => exact kept
  | error exc after => exact kept

/-- What holds of a world holds of it with any zones. -/
def IgnoresZones (holds : World κ → Prop) : Prop :=
  ∀ world value, holds world →
    holds (world.withPlacement { world.placement with availabilityZone := value })

lemma writeAvailabilityZone_meets {raised : Exc → World κ → Prop} (ignores : IgnoresZones holds)
    (value : Option String) : Meets holds (writeAvailabilityZone value) (fun _ => holds) raised :=
  meets_modify _ fun world start => ignores world value start

variable (api : Api κ)

lemma getClusterGceOnce_keepsRegions (config : Config) (createClusters : ProvisionStep κ) :
    KeepsRegions (getClusterGceOnce api config createClusters) := by
  intro origin
  refine keeps_bind (keeps_bind (lift_keepsRegions _ origin) fun _ => ?_) fun _ => ?_
  · exact writeAvailabilityZone_meets (fun _ _ kept => kept) _
  · exact provisionStep_keepsRegions createClusters origin

/-! ## The zone retry -/

lemma azCandidates_meets (config : Config)
    (kept : Keeps holds (Query.lift (getAzFallbackCandidates api config).start)) :
    Meets holds ((getAzFallbackCandidates api config).lift Query.lift).start
      (fun steps world => holds world ∧
        ∀ step ∈ steps, ∃ value, step = (Query.lift (pure value) : Action κ _))
      (fun _ => holds) := by
  refine meets_of (fun world steps after start ran => ?_) fun world exc after start ran => ?_
  · obtain ⟨queries, made, rfl⟩ := map_ok_iff.mp ran
    refine ⟨kept.of_ok start made, fun step listed => ?_⟩
    obtain ⟨query, member, rfl⟩ := List.mem_map.mp listed
    obtain ⟨_, _, computed⟩ := lift_ok made
    unfold getAzFallbackCandidates at computed
    simp only at computed
    split at computed
    · simp only [run_pure, EStateM.Result.ok.injEq] at computed
      rw [← computed.1] at member
      simp at member
    · obtain ⟨letters, middle, _, ended⟩ := bind_ok_iff.mp computed
      simp only [run_pure, EStateM.Result.ok.injEq] at ended
      rw [← ended.1] at member
      obtain ⟨letter, _, rfl⟩ := List.mem_map.mp member
      exact ⟨_, rfl⟩
  · exact kept.of_error start (map_error_iff.mp ran)

section

variable {ready dirty finished : World κ → Prop} {provisionOnce : Action κ Unit}

lemma zoneAttempt_meets
    (attempt : Meets ready provisionOnce (fun _ => finished) fun _ => dirty)
    (dirtyZones : IgnoresZones dirty)
    (originalAz : Option String) :
    Meets ready (zoneAttempt provisionOnce originalAz)
      (fun failure world => match failure with
        | none => finished world
        | some _ => dirty world)
      (fun _ => dirty) := by
  refine meets_tryCatch (meets_bind attempt fun _ => meets_pure _ fun _ reached => reached)
    fun exc => ?_
  split
  · exact meets_pure _ fun _ reached => reached
  · refine meets_bind (writeAvailabilityZone_meets dirtyZones originalAz) fun _ => ?_
    exact meets_throw _ fun _ reached => reached

lemma retryZone_meets (api : Api κ) (partialCleanup : Option (Query κ Unit))
    (attempt : Meets ready provisionOnce (fun _ => finished) fun _ => dirty)
    (sweep : Meets dirty (Query.lift (cleanupDatacenters api partialCleanup)) (fun _ => ready)
      fun _ => dirty)
    (readyZones : IgnoresZones ready) (dirtyZones : IgnoresZones dirty)
    (originalAz : Option String) (lastError : Exc) (value : Option (List String)) :
    Meets dirty (retryZone api provisionOnce partialCleanup originalAz lastError
        (Query.lift (pure value)))
      (fun outcome world => match outcome with
        | .inl _ => dirty world
        | .inr () => finished world)
      (fun _ => dirty) := by
  have handed : Meets dirty (Query.lift (pure value) : Action κ _)
      (fun found world => dirty world ∧ found = value) (fun _ => dirty) :=
    fun _ reached => ⟨reached, rfl⟩
  refine meets_bind handed fun found => meets_of_fact fun same => ?_
  cases found with
  | none => exact meets_pure _ fun _ reached => reached
  | some azLetters =>
    refine meets_bind sweep fun _ =>
      meets_bind (writeAvailabilityZone_meets readyZones _) fun _ => ?_
    refine meets_bind (zoneAttempt_meets attempt dirtyZones originalAz) fun failure => ?_
    cases failure with
    | none => exact meets_pure _ fun _ reached => reached
    | some exc => exact meets_pure _ fun _ reached => reached

/-- The rule of the zone retry: it starts every attempt ready, as the sweep before it makes it,
and a raise leaves the world dirty. -/
lemma zoneRetry_meets (api : Api κ) (config : Config) (partialCleanup : Option (Query κ Unit))
    (attempt : Meets ready provisionOnce (fun _ => finished) fun _ => dirty)
    (candidates : Keeps dirty (Query.lift (getAzFallbackCandidates api config).start))
    (sweep : Meets dirty (Query.lift (cleanupDatacenters api partialCleanup)) (fun _ => ready)
      fun _ => dirty)
    (readyZones : IgnoresZones ready) (dirtyZones : IgnoresZones dirty) :
    Meets ready (provisionWithZoneRetry api config provisionOnce partialCleanup)
      (fun _ => finished) fun _ => dirty := by
  refine meets_bind (meets_get fun world start => start) fun world => ?_
  refine meets_bind (zoneAttempt_meets attempt dirtyZones _) fun failure => ?_
  cases failure with
  | none => exact meets_pure _ fun _ reached => reached
  | some exc =>
    refine meets_bind (azCandidates_meets api config candidates) fun steps =>
      meets_of_fact fun handed => ?_
    have tried := @meets_foldUntil _ _ _ _ _ (fun _ => dirty)
      (retryZone api provisionOnce partialCleanup world.placement.availabilityZone)
      (fun outcome world => match outcome with
        | .inl _ => dirty world
        | .inr () => finished world) steps ?_ exc
    · refine meets_bind tried fun outcome => ?_
      cases outcome with
      | inr _ => exact meets_pure _ fun _ reached => reached
      | inl lastError =>
        refine meets_bind (writeAvailabilityZone_meets dirtyZones _) fun _ => ?_
        exact meets_throw _ fun _ reached => reached
    · intro lastError step listed
      obtain ⟨value, rfl⟩ := handed step listed
      exact retryZone_meets api partialCleanup attempt sweep readyZones dirtyZones _ lastError value

end

lemma provisionWithAzFallback_keepsRegions (config : Config) {provisionOnce : Action κ Unit}
    (keeps : KeepsRegions provisionOnce) (partialCleanup : Option (Query κ Unit)) :
    KeepsRegions (provisionWithAzFallback api config provisionOnce partialCleanup) := by
  intro origin
  unfold provisionWithAzFallback
  split
  · exact zoneRetry_meets api config partialCleanup (keeps origin) (lift_keepsRegions _ origin)
      (lift_keepsRegions _ origin) (fun _ _ kept => kept) fun _ _ kept => kept
  · exact keeps origin

/-! ## Sweeping never raises -/

variable (api : Api κ)

lemma sweepZone_returns (region : Option String) (provisioner : String × String) (cloud : κ) :
    ∃ after, (sweepZone api region provisioner).run cloud = .ok () after := by
  unfold sweepZone
  split
  · rw [run_tryCatch]
    cases (api.cleanupZone provisioner.2).run cloud with
    | ok value after => exact ⟨after, rfl⟩
    | error exc after => exact ⟨after, rfl⟩
  · exact ⟨cloud, rfl⟩

lemma sweepRegion_returns (region : Option String) (cloud : κ) :
    ∃ after, (sweepRegion api region).run cloud = .ok () after := by
  rw [sweepRegion, run_bind, run_tryCatch]
  cases (some <$> discoverRegions api).run cloud with
  | error exc middle => exact ⟨middle, rfl⟩
  | ok found middle =>
    cases found with
    | none => exact ⟨middle, rfl⟩
    | some provisioners =>
      obtain ⟨after, swept, -⟩ := forM_returns (fun _ _ => True)
        (fun provisioner _ cloud _ => (sweepZone_returns api region provisioner cloud).imp
          fun _ ran => ⟨ran, trivial⟩) trivial
      exact ⟨after, swept⟩

lemma cleanupRegion_error_iff (partialCleanup : Option (Query κ Unit)) (region : Option String)
    (world exit : World κ) (error : Exc) :
    (cleanupRegion api partialCleanup region).lift.run world = .error error exit ↔
      (runPartialCleanup partialCleanup).lift.run world = .error error exit := by
  rw [lift_run, lift_run, cleanupRegion, run_bind]
  cases (runPartialCleanup partialCleanup world.placement).run world.cloud with
  | error exc cloud => rfl
  | ok value cloud =>
    obtain ⟨after, swept⟩ := sweepRegion_returns api region cloud
    simp [swept]

/-! ## The contract -/

variable (regionCandidates : Generator (Query κ) Candidate) (provisionOnce : Action κ Unit)
  (errorFactory : String → Exc) (partialCleanup : Option (Query κ Unit))

/-- A run returns with the settings of the region whose `provision_once` succeeded, or raises
with the settings it started from. -/
def SettlesPlacement (entry : World κ) : Prop :=
  let fallback := regionFallback api regionCandidates provisionOnce errorFactory partialCleanup
    entry.placement
  match (provisionWithRegionFallback api regionCandidates provisionOnce errorFactory
    partialCleanup).run entry with
  | .ok () exit => ∃ region start, Attempted fallback entry (some region) start ∧
      start.placement.TriedWith entry.placement region ∧
      provisionOnce.run start = .ok () exit ∧
      exit.placement.SameRegions start.placement
  | .error _ exit => exit.placement = entry.placement

/-- With one configured region, no caller's cleanup after an exhausted attempt raises while the
settings differ from those at entry. -/
def CleanupsRaiseAtEntryOnly (entry : World κ) : Prop :=
  let fallback := regionFallback api regionCandidates provisionOnce errorFactory partialCleanup
    entry.placement
  entry.placement.configuredRegions.length = 1 → ∀ region start exc failed error exit,
    Attempted fallback entry region start →
    provisionOnce.run start = .error exc failed → isCapacityError exc = true →
    (runPartialCleanup partialCleanup).lift.run failed = .error error exit →
    failed.placement = entry.placement

variable (entry : World κ)

lemma provisionWithRegionFallback_run (single : entry.placement.configuredRegions.length = 1) :
    (provisionWithRegionFallback api regionCandidates provisionOnce errorFactory
      partialCleanup).run entry =
      (regionFallback api regionCandidates provisionOnce errorFactory partialCleanup
        entry.placement).run.run entry := by
  have gate : (enforceSingleRegionGate : Action κ Unit).run entry = .ok () entry := by
    rw [enforceSingleRegionGate, run_bind, run_get]
    simp only [single, ↓reduceIte, run_pure]
  unfold provisionWithRegionFallback
  rw [run_bind, gate]
  simp only
  rw [run_bind, run_get]

lemma provisionWithRegionFallback_rejected
    (several : entry.placement.configuredRegions.length ≠ 1) :
    ∃ error, (provisionWithRegionFallback api regionCandidates provisionOnce errorFactory
      partialCleanup).run entry = .error error entry := by
  have gate : ∃ error, (enforceSingleRegionGate : Action κ Unit).run entry = .error error entry := by
    simp [enforceSingleRegionGate, several]
  obtain ⟨error, raised⟩ := gate
  refine ⟨error, ?_⟩
  rw [provisionWithRegionFallback, run_bind, raised]

lemma triedWith_of_attempted {entry : World κ}
    (single : entry.placement.configuredRegions.length = 1) {region : Option String}
    {start : World κ}
    (attempted : Attempted (regionFallback api regionCandidates provisionOnce errorFactory
      partialCleanup entry.placement) entry region start) :
    ∃ name, region = some name ∧ start.placement.TriedWith entry.placement name := by
  cases attempted with
  | configured =>
    obtain ⟨name, names⟩ := List.length_eq_one_iff.mp single
    refine ⟨name, ?_, .inl ⟨names, rfl⟩⟩
    simp [regionFallback, names]
  | @relocated _ _ _ _ probed _ _ _ _ _ _ target azLetters _ _ _ _ _ switched =>
    refine ⟨target, rfl, .inr ⟨azLetters, ?_⟩⟩
    rw [← (EStateM.Result.ok.inj switched).2, withPlacement_placement]

/-- A run of the single-region fallback settles the placement exactly when no caller's cleanup
raises after the settings were moved. -/
theorem settlesPlacement_iff (keeps : KeepsRegions provisionOnce) (entry : World κ)
    (loaded : entry.placement.Loaded) :
    SettlesPlacement api regionCandidates provisionOnce errorFactory partialCleanup entry ↔
      CleanupsRaiseAtEntryOnly api regionCandidates provisionOnce errorFactory partialCleanup
        entry := by
  have settled : Settled (regionFallback api regionCandidates provisionOnce errorFactory
        partialCleanup entry.placement)
      (fun region azLetters world => world.withPlacement (.moved region azLetters))
      (fun world => world.withPlacement (world.placement.restored
        entry.placement.configuredRegions.head? entry.placement.availabilityZone
        entry.placement.envRegion)) :=
    ⟨fun _ _ _ => rfl, fun _ => rfl, fun _ _ => ⟨_, _, rfl⟩⟩
  constructor
  · intro settles single region start exc failed error exit attempted ran capacity raised
    have cleanup := (cleanupRegion_error_iff api partialCleanup region failed exit
      error).mpr raised
    have ended := run_of_cleanup_raised settled attempted ran capacity cleanup
    simp only [SettlesPlacement, provisionWithRegionFallback_run api regionCandidates
      provisionOnce errorFactory partialCleanup entry single, ended] at settles
    rw [← settles, (lift_error raised).1]
  · intro safe
    by_cases single : entry.placement.configuredRegions.length = 1
    · have restores := Placement.restored_of_loaded loaded single
      simp only [SettlesPlacement, provisionWithRegionFallback_run api regionCandidates
        provisionOnce errorFactory partialCleanup entry single]
      have ended := run_ended settled entry
      generalize (regionFallback api regionCandidates provisionOnce errorFactory partialCleanup
        entry.placement).run.run entry = result at ended
      cases ended with
      | succeeded attempted ran =>
        obtain ⟨name, rfl, tried⟩ := triedWith_of_attempted api regionCandidates provisionOnce
          errorFactory partialCleanup single attempted
        exact ⟨name, _, attempted, tried, ran, keeps.of_ok ran⟩
      | propagated attempted ran hard => exact restores _
      | cleanupRaised attempted ran capacity raised =>
        have own := (cleanupRegion_error_iff api partialCleanup _ _ _ _).mp raised
        have reached := safe single _ _ _ _ _ _ attempted ran capacity own
        exact (lift_error own).1.trans reached
      | candidatesRaised => exact restores _
      | exhausted built =>
        obtain ⟨rfl, rfl⟩ := EStateM.Result.ok.inj built
        exact restores _
    · obtain ⟨error, rejected⟩ := provisionWithRegionFallback_rejected api regionCandidates
        provisionOnce errorFactory partialCleanup entry single
      simp only [SettlesPlacement, rejected]

/-! ## A cleanup that raises after a relocation -/

def emptyApi : Api κ where
  getZonesForRegion _ := pure []
  getZonesForMachineType _ _ := pure []
  getZoneAdvice _ _ _ _ := pure []
  randomChoice _ := pure 0
  zonesWithInstances := pure []
  cleanupZone _ := pure ()

def stockedOut : ProvisionStep κ :=
  .ofQuery (throw (.raised .zoneResourcesExhaustedError "ZONE_RESOURCE_POOL_EXHAUSTED"))

def oneCandidate : Generator (Query κ) Candidate where
  start := pure [pure (some ("us-east4", ["b"]))]

def cleanupOnce : Query Nat Unit := do
  let calls ← get
  set (calls + 1)
  if calls = 0 then pure () else throw (.raised .runtimeError "destroy failed")

def eastEntry : World Nat where
  placement := ⟨none, some "us-east1", some "b"⟩
  cloud := 0
  history := []

/-- The configured region and the candidate are out of capacity, and the cleanup of the candidate
raises: the run raises with the settings of the candidate. -/
theorem cleanupOnce_leaves_relocation :
    ¬ SettlesPlacement emptyApi oneCandidate stockedOut.action
      (Exc.raised .provisionUnrecoverableError) (some cleanupOnce) eastEntry := by
  intro settles
  have moved : Placement.moved "us-east4" ["b"] = eastEntry.placement := settles
  exact absurd moved (by decide)

/-- The exact condition, for the run above. -/
theorem settlesPlacement_iff_cleanupOnce :
    SettlesPlacement emptyApi oneCandidate stockedOut.action
        (Exc.raised .provisionUnrecoverableError) (some cleanupOnce) eastEntry ↔
      CleanupsRaiseAtEntryOnly emptyApi oneCandidate stockedOut.action
        (Exc.raised .provisionUnrecoverableError) (some cleanupOnce) eastEntry :=
  settlesPlacement_iff emptyApi oneCandidate stockedOut.action _ _
    (provisionStep_keepsRegions stockedOut) eastEntry (fun _ => by decide)

end Sct.Gce
