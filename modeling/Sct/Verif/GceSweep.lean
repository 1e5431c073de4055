import Mathlib.Data.Set.Basic
import Sct.Verif.GceDcFallback

/-!
# No leftovers between attempts

An attempt that fails may leave instances behind, and their names are reused by the next one. Whoever
starts the next attempt sweeps first, so every call of the innermost `provision_once`, and the error
that says nothing is left to try, finds only what was there before the run.
-/

open Sct.Effect
open List
open EStateM (run_bind run_get run_pure)

namespace Sct.Gce

variable {κ : Type}

/-- The region of a zone: what stands before its last dash. -/
def zoneRegion (zone : String) : Option String := (splitLast '-' zone).map Prod.fst

/-- The computation creates nothing, whichever way it ends. -/
def Harmless {α : Type} (held : κ → Set String) (body : EStateM Exc κ α) : Prop :=
  ∀ bound : Set String, Keeps (fun cloud => held cloud ⊆ bound) body

/-- Discovery finds every zone with instances, deletion empties the zone it is asked to, and
questions create nothing. -/
structure Faithful (api : Api κ) (held : κ → Set String) : Prop where
  discovers : ∀ cloud, ∃ zones after, api.zonesWithInstances.run cloud = .ok zones after ∧
    (∀ zone ∈ held cloud, zone ∈ zones) ∧ held after ⊆ held cloud
  deletes : ∀ zone cloud, ∃ after, (api.cleanupZone zone).run cloud = .ok () after ∧
    held after ⊆ held cloud \ {zone}
  regionZones : ∀ region, Harmless held (api.getZonesForRegion region)
  typeZones : ∀ region machineType, Harmless held (api.getZonesForMachineType region machineType)
  advice : ∀ machineTypes size region zones,
    Harmless held (api.getZoneAdvice machineTypes size region zones)

/-- An attempt creates instances only in the regions configured when it starts. -/
def CreatesInConfigured (held : κ → Set String) (step : ProvisionStep κ) : Prop :=
  ∀ placement state, match (step.body placement).run state with
    | .ok _ after => ∀ zone ∈ held after.2, zone ∈ held state.2 ∨
        ∃ region ∈ placement.configuredRegions, zoneRegion zone = some region
    | .error _ after => ∀ zone ∈ held after.2, zone ∈ held state.2 ∨
        ∃ region ∈ placement.configuredRegions, zoneRegion zone = some region

variable {api : Api κ} {config : Config} {held : κ → Set String}

section Calls

variable (faithful : Faithful api held)
include faithful

/-! ## Questions are harmless -/

lemma getCommonZones_harmless (region : String) (machineTypes preferredZones : List String) :
    Harmless held (getCommonZones api region machineTypes preferredZones) := by
  intro bound
  unfold getCommonZones
  split
  · exact keeps_pure _
  · refine keeps_bind (keeps_mapM _ fun machineType => ?_) fun _ => keeps_pure _
    exact faithful.typeZones region machineType bound

lemma commonSupportedLetters_harmless (regions configuredLetters machineTypes : List String) :
    Harmless held (commonSupportedLetters api regions configuredLetters machineTypes) := by
  intro bound
  refine keeps_bind ?_ fun _ => keeps_pure _
  refine keeps_bind (keeps_foldlM _ (fun common region => ?_) _) fun _ => keeps_pure _
  refine keeps_bind (keeps_pure _) fun _ => keeps_bind ?_ fun _ => keeps_pure _
  exact getCommonZones_harmless faithful _ _ _ bound

lemma orderedFallbackRegions_harmless (exclude : List String) :
    Harmless held (orderedFallbackRegions api config exclude) := by
  intro bound
  unfold orderedFallbackRegions
  simp only
  split
  · exact keeps_pure _
  · refine keeps_bind (keeps_mapM _ fun region => ?_) fun zonesPerRegion => ?_
    · exact keeps_bind (faithful.regionZones region bound) fun _ => keeps_pure _
    · refine keeps_bind ?_ fun ranking => ?_
      · unfold rankRegions
        split
        · exact keeps_pure _
        · refine keeps_bind (keeps_foldlM _ (fun best region => ?_) _) fun best => ?_
          · simp only
            split
            · exact keeps_pure _
            · refine keeps_bind (faithful.advice _ _ _ _ bound) fun advice => ?_
              cases advice with
              | nil => exact keeps_pure _
              | cons first others => exact keeps_pure _
          · split
            · exact keeps_pure _
            · exact keeps_pure _
      · cases ranking with
        | none => exact keeps_pure _
        | some ranked => exact keeps_pure _

/-! ## A sweep empties a region -/

variable (region : Option String)

lemma sweepZone_clears (provisioner : String × String) (cloud : κ) :
    ∃ after, (sweepZone api region provisioner).run cloud = .ok () after ∧
      ∀ zone ∈ held after, zone ∈ held cloud ∧
        (some provisioner.1 = region → zone ≠ provisioner.2) := by
  unfold sweepZone
  by_cases inside : some provisioner.1 = region
  · obtain ⟨after, deleted, fewer⟩ := faithful.deletes provisioner.2 cloud
    refine ⟨after, ?_, fun zone left => ?_⟩
    · rw [if_pos inside, run_tryCatch, deleted]
    · have kept := fewer left
      exact ⟨kept.1, fun _ => kept.2⟩
  · refine ⟨cloud, ?_, fun zone left => ⟨left, fun same => absurd same inside⟩⟩
    rw [if_neg inside]
    rfl

omit faithful in
/-- What each round keeps and clears, the loop keeps and clears. -/
lemma forM_clears {α : Type} {body : α → EStateM Exc κ PUnit} {gone : α → String → Prop}
    (round : ∀ item cloud, ∃ after, (body item).run cloud = .ok ⟨⟩ after ∧
      ∀ zone ∈ held after, zone ∈ held cloud ∧ gone item zone) (items : List α) (cloud : κ) :
    ∃ after, (items.forM body).run cloud = .ok ⟨⟩ after ∧
      ∀ zone ∈ held after, zone ∈ held cloud ∧ ∀ item ∈ items, gone item zone := by
  obtain ⟨after, ran, cleared⟩ := forM_returns (fun rest now => ∀ zone ∈ held now, zone ∈ held cloud ∧
    ∀ item ∈ items, item ∈ rest ∨ gone item zone) (fun item rest now before => by
      obtain ⟨after, ran, cleared⟩ := round item now
      refine ⟨after, ran, fun zone left => ?_⟩
      obtain ⟨survived, clear⟩ := cleared zone left
      refine ⟨(before zone survived).1, fun other listed => ?_⟩
      rcases (before zone survived).2 other listed with waiting | done
      · rcases mem_cons.mp waiting with rfl | later
        · exact Or.inr clear
        · exact Or.inl later
      · exact Or.inr done) fun zone left => ⟨left, fun _ listed => Or.inl listed⟩
  exact ⟨after, ran, fun zone left => ⟨(cleared zone left).1, fun item listed =>
    ((cleared zone left).2 item listed).resolve_left not_mem_nil⟩⟩

lemma sweepRegion_clears (cloud : κ) :
    ∃ after, (sweepRegion api region).run cloud = .ok () after ∧
      ∀ zone ∈ held after, zone ∈ held cloud ∧ ∀ name, region = some name →
        zoneRegion zone ≠ some name := by
  obtain ⟨zones, middle, listed, complete, fewer⟩ := faithful.discovers cloud
  let found := zones.eraseDups.filterMap fun zone =>
    (splitLast '-' zone).map fun parts => (parts.1, zone)
  obtain ⟨after, swept, cleared⟩ := forM_clears (sweepZone_clears faithful region) found middle
  refine ⟨after, ?_, fun zone left => ?_⟩
  · have discovered : (discoverRegions api).run cloud = .ok found middle := by
      rw [discoverRegions, run_bind, listed]
      rfl
    have guarded : (tryCatch (some <$> discoverRegions api) fun _ => pure none).run cloud =
        .ok (some found) middle := by
      rw [tryCatch_ok_iff]
      exact .inl (map_ok_iff.mpr ⟨_, discovered, rfl⟩)
    rw [sweepRegion, run_bind, guarded]
    exact swept
  · obtain ⟨survived, gone⟩ := cleared zone left
    refine ⟨fewer survived, fun name here inside => ?_⟩
    obtain ⟨parts, cut, named⟩ := Option.map_eq_some_iff.mp inside
    have provisioner : (parts.1, zone) ∈ found := by
      refine mem_filterMap.mpr ⟨zone, ?_, by simp [cut]⟩
      exact mem_eraseDups.mpr (complete zone (fewer survived))
    exact gone (parts.1, zone) provisioner (by rw [named, here]) rfl

lemma forM_sweepRegion_clears (placement : Placement) (regions : List String) (cloud : κ) :
    ∃ after, (regions.forM fun region =>
        cleanupRegion api none (some region) placement).run cloud = .ok () after ∧
      ∀ zone ∈ held after, zone ∈ held cloud ∧ ∀ name ∈ regions, zoneRegion zone ≠ some name := by
  apply forM_clears
  intro region cloud
  obtain ⟨after, swept, cleared⟩ := sweepRegion_clears faithful (some region) cloud
  exact ⟨after, swept, fun zone left => ⟨(cleared zone left).1, (cleared zone left).2 region rfl⟩⟩

end Calls

/-! ## Worlds between attempts -/

section Worlds

variable (held : κ → Set String) (before : Set String) (world : World κ)

/-- The calls recorded so far are attempts that found nothing new. -/
def Unexhausted : Prop :=
  ∀ event ∈ world.history, event.milestone = .provisionOnce ∧ held event.cloud ⊆ before

/-- The world is ready for an attempt: the test has nothing that was not there before. -/
structure Ready : Prop where
  recorded : Unexhausted held before world
  agree : world.placement.configuredRegions = world.placement.parameterRegions
  clean : held world.cloud ⊆ before

/-- The world after an attempt: what is left over is in the configured regions. -/
structure Dirty : Prop where
  recorded : Unexhausted held before world
  agree : world.placement.configuredRegions = world.placement.parameterRegions
  confined : ∀ zone ∈ held world.cloud, zone ∈ before ∨
    ∃ region ∈ world.placement.configuredRegions, zoneRegion zone = some region

/-- The world when the run is over: every recorded call found nothing new, and if the run gave up
there is nothing new now. -/
def Stopped : Prop :=
  ∀ event ∈ world.history, held event.cloud ⊆ before ∧
    (event.milestone = .exhausted → held world.cloud ⊆ before)

/-- From such a world the run ends as it should if it raises. -/
abbrev Sweeps {α : Type} (pre : World κ → Prop) (body : Action κ α) (post : α → World κ → Prop) :
    Prop :=
  Meets pre body post fun _ => Stopped held before

/-- An attempt starts ready and leaves over only what is in the configured regions. -/
abbrev Attempts (body : Action κ Unit) : Prop :=
  Meets (Ready held before) body (fun _ => Dirty held before) fun _ => Dirty held before

def ReadyIn (name : String) : Prop :=
  Ready held before world ∧ world.placement.configuredRegions = [name]

def DirtyIn (name : String) : Prop :=
  Dirty held before world ∧ world.placement.configuredRegions = [name]

end Worlds

variable {before : Set String} {world : World κ}

lemma Unexhausted.stopped (recorded : Unexhausted held before world) :
    Stopped held before world := by
  intro event listed
  obtain ⟨attempt, found⟩ := recorded event listed
  refine ⟨found, fun gaveUp => ?_⟩
  rw [attempt] at gaveUp
  cases gaveUp

lemma Dirty.stopped (dirty : Dirty held before world) :
    Stopped held before world := dirty.recorded.stopped

variable {α : Type}

/-- A question that creates nothing keeps what is said of the instances by a bound on them. -/
lemma Harmless.lift {query : Query κ α} (harmless : ∀ placement, Harmless held (query placement))
    {holds : World κ → Prop} (bound : Placement → Set String)
    (bounds : ∀ world, holds world → held world.cloud ⊆ bound world.placement)
    (kept : ∀ world cloud, holds world → held cloud ⊆ bound world.placement →
      holds { world with cloud }) : Keeps holds query.lift := by
  intro world start
  have asked := harmless world.placement (bound world.placement) world.cloud (bounds world start)
  rw [lift_run]
  cases ran : (query world.placement).run world.cloud with
  | ok value cloud =>
    rw [ran] at asked
    exact kept world cloud start asked
  | error exc cloud =>
    rw [ran] at asked
    exact kept world cloud start asked

variable (query : Query κ α)

lemma lift_ready (harmless : ∀ placement, Harmless held (query placement)) :
    Keeps (Ready held before) query.lift :=
  Harmless.lift harmless (fun _ => before) (fun _ ready => ready.clean)
    fun _ _ ready clean => ⟨ready.recorded, ready.agree, clean⟩

lemma lift_dirty (harmless : ∀ placement, Harmless held (query placement)) :
    Keeps (Dirty held before) query.lift :=
  Harmless.lift harmless (fun placement => {zone | zone ∈ before ∨
      ∃ region ∈ placement.configuredRegions, zoneRegion zone = some region})
    (fun _ dirty => dirty.confined)
    fun _ _ dirty confined => ⟨dirty.recorded, dirty.agree, confined⟩

lemma innermost_meets {step : ProvisionStep κ} (creates : CreatesInConfigured held step) :
    Attempts held before (innermost step) := by
  have noted : Meets (Ready held before) (record .provisionOnce : Action κ Unit)
      (fun _ => Ready held before) fun _ => Dirty held before := by
    refine meets_modify _ fun world ready => ⟨?_, ready.agree, ready.clean⟩
    intro event listed
    rcases mem_append.mp listed with earlier | new
    · exact ready.recorded event earlier
    · rw [mem_singleton.mp new]
      exact ⟨rfl, ready.clean⟩
  refine meets_bind noted fun _ world ready => ?_
  have created := creates world.placement (world.placement.availabilityZone, world.cloud)
  rw [action_run]
  cases ran : (step.body world.placement).run
      (world.placement.availabilityZone, world.cloud) with
  | ok value after =>
    rw [ran] at created
    exact ⟨ready.recorded, ready.agree, fun zone left => (created zone left).imp_left
      fun earlier => ready.clean earlier⟩
  | error exc after =>
    rw [ran] at created
    exact ⟨ready.recorded, ready.agree, fun zone left => (created zone left).imp_left
      fun earlier => ready.clean earlier⟩

/-! ## Cleanups make the world ready -/

def HarmlessCleanup (held : κ → Set String) (partialCleanup : Option (Query κ Unit)) : Prop :=
  ∀ placement, Harmless held (runPartialCleanup partialCleanup placement)

lemma Dirty.ready (dirty : Dirty held before world) {cloud : κ}
    (cleared : ∀ zone ∈ held cloud, zone ∈ held world.cloud ∧
      ∀ name ∈ world.placement.configuredRegions, zoneRegion zone ≠ some name) :
    Ready held before { world with cloud := cloud } := by
  refine ⟨dirty.recorded, dirty.agree, fun zone left => ?_⟩
  obtain ⟨earlier, gone⟩ := cleared zone left
  rcases dirty.confined zone earlier with old | ⟨region, configured, inside⟩
  · exact old
  · exact absurd inside (gone region configured)

lemma lift_bind {α β : Type} (first : Query κ α) (second : α → Query κ β) :
    Query.lift (first >>= second) = (first.lift >>= fun value => (second value).lift) := by
  funext world
  change (Query.lift (first >>= second)).run world =
    (first.lift >>= fun value => (second value).lift).run world
  rw [run_bind, lift_run, lift_run]
  have unfolded : (first >>= second) world.placement =
      (first world.placement >>= fun value => second value world.placement) := rfl
  rw [unfolded, run_bind]
  cases (first world.placement).run world.cloud with
  | ok value cloud => rfl
  | error exc cloud => rfl

section Cleanups

variable (faithful : Faithful api held) {partialCleanup : Option (Query κ Unit)}
  (harmless : HarmlessCleanup held partialCleanup)
include faithful harmless

lemma cleanupDatacenters_meets :
    Meets (Dirty held before) (Query.lift (cleanupDatacenters api partialCleanup))
      (fun _ => Ready held before) fun _ => Dirty held before := by
  have swept : Meets (Dirty held before) (Query.lift fun placement =>
      placement.parameterRegions.eraseDups.forM fun region =>
        cleanupRegion api none (some region) placement)
      (fun _ => Ready held before) fun _ => Dirty held before := by
    intro world dirty
    obtain ⟨after, ran, cleared⟩ := forM_sweepRegion_clears faithful world.placement
      world.placement.parameterRegions.eraseDups world.cloud
    rw [lift_run, ran]
    refine dirty.ready fun zone left => ?_
    obtain ⟨earlier, gone⟩ := cleared zone left
    refine ⟨earlier, fun name configured => gone name ?_⟩
    rw [mem_eraseDups, ← dirty.agree]
    exact configured
  have parts : cleanupDatacenters api partialCleanup =
      (runPartialCleanup partialCleanup >>= fun _ placement =>
        placement.parameterRegions.eraseDups.forM fun region =>
          cleanupRegion api none (some region) placement) := rfl
  rw [parts, lift_bind]
  exact meets_bind (lift_dirty _ harmless) fun _ => swept

lemma cleanupRegion_meets (name : String) :
    Sweeps held before (DirtyIn held before · name)
      (Query.lift (cleanupRegion api partialCleanup (some name))) fun _ => Ready held before := by
  have swept : Sweeps held before (DirtyIn held before · name)
      (Query.lift fun _ => sweepRegion api (some name)) fun _ => Ready held before := by
    rintro world ⟨dirty, single⟩
    obtain ⟨after, ran, cleared⟩ := sweepRegion_clears faithful (some name) world.cloud
    rw [lift_run, ran]
    refine dirty.ready fun zone left => ?_
    obtain ⟨earlier, gone⟩ := cleared zone left
    refine ⟨earlier, fun region configured => ?_⟩
    rw [single, mem_singleton] at configured
    rw [configured]
    exact gone name rfl
  have parts : cleanupRegion api partialCleanup (some name) =
      (runPartialCleanup partialCleanup >>= fun _ _ => sweepRegion api (some name)) := rfl
  rw [parts, lift_bind]
  have confined : Keeps (Dirty held before) (Query.lift (runPartialCleanup partialCleanup)) :=
    lift_dirty _ harmless
  have single : Keeps (fun world : World κ => world.placement.configuredRegions = [name])
      (Query.lift (runPartialCleanup partialCleanup)) := lift_keeps _ fun _ _ kept => kept
  refine meets_bind ((confined.both single).raising fun _ _ reached => reached.1.stopped)
    fun _ => swept

lemma azFallback_meets {step : ProvisionStep κ} (creates : CreatesInConfigured held step) :
    Attempts held before (provisionWithAzFallback api config (innermost step) partialCleanup) := by
  unfold provisionWithAzFallback
  split
  · refine zoneRetry_meets api config partialCleanup (innermost_meets creates)
      (lift_dirty _ fun placement bound => ?_) (cleanupDatacenters_meets faithful harmless)
      (fun _ _ ready => ⟨ready.recorded, ready.agree, ready.clean⟩)
      fun _ _ dirty => ⟨dirty.recorded, dirty.agree, dirty.confined⟩
    unfold getAzFallbackCandidates
    simp only
    split
    · exact keeps_pure _
    · refine keeps_bind (commonSupportedLetters_harmless faithful _ _ _ bound) fun _ => ?_
      exact keeps_pure _
  · exact innermost_meets creates

end Cleanups

/-! ## The loops -/

section Loops

variable {provisionOnce : Action κ Unit} {partialCleanup : Option (Query κ Unit)}
  {errorFactory : String → Exc}

section Restoring

variable {α : Type} {post : α → World κ → Prop} (region availabilityZone envRegion : Option String)

lemma restoreRegion_throw (exc : Exc) :
    Sweeps held before (Unexhausted held before)
      (do restoreRegion region availabilityZone envRegion; throw exc) post := by
  have restored : Sweeps held before (Unexhausted held before)
      (restoreRegion region availabilityZone envRegion) fun _ => Unexhausted held before :=
    meets_modify _ fun _ recorded => recorded
  exact meets_bind restored fun _ => meets_throw _ fun _ recorded => recorded.stopped

lemma restoringOnRaise_ready {body : Action κ α}
    (keeps : Meets (Ready held before) body post fun _ => Ready held before) :
    Sweeps held before (Ready held before)
      (restoringOnRaise (restoreRegion region availabilityZone envRegion) body) post := by
  refine meets_tryCatch keeps fun exc => ?_
  exact (restoreRegion_throw region availabilityZone envRegion exc).given
    fun _ ready => ready.recorded

lemma giveUp_meets (message : String) :
    Sweeps held before (Ready held before)
      (do
        restoreRegion region availabilityZone envRegion
        let error ← (do record .exhausted; pure (errorFactory message) : Action κ Exc)
        throw error)
      post := by
  let Clean (world : World κ) : Prop := Unexhausted held before world ∧ held world.cloud ⊆ before
  have restored : Sweeps held before (Ready held before)
      (restoreRegion region availabilityZone envRegion) fun _ => Clean :=
    meets_modify _ fun _ ready => ⟨ready.recorded, ready.clean⟩
  have noted : Sweeps held before Clean (record .exhausted : Action κ Unit)
      fun _ => Stopped held before := by
    refine meets_modify _ fun world reached => ?_
    intro event listed
    rcases mem_append.mp listed with earlier | new
    · exact ⟨(reached.1 event earlier).2, fun _ => reached.2⟩
    · rw [mem_singleton.mp new]
      exact ⟨reached.2, fun _ => reached.2⟩
  have built : Sweeps held before Clean
      (do record .exhausted; pure (errorFactory message) : Action κ Exc)
      fun _ => Stopped held before :=
    meets_bind noted fun _ => meets_pure _ fun _ stopped => stopped
  exact meets_bind restored fun _ => meets_bind built fun error =>
    meets_throw _ fun _ stopped => stopped

end Restoring

lemma regionCandidates_start (faithful : Faithful api held) {placement : Placement}
    {cloud after : κ} {queries : List (Query κ (Option Candidate))}
    (ran : ((getRegionFallbackCandidates api config).start placement).run cloud =
      .ok queries after) :
    ∀ query ∈ queries, (∀ settings, Harmless held (query settings)) ∧
      ∀ settings reached candidate ended,
        (query settings).run reached = .ok (some candidate) ended →
          candidate.1 ∈ supportedGceRegions := by
  unfold getRegionFallbackCandidates at ran
  simp only at ran
  split at ran
  · simp only [run_pure, EStateM.Result.ok.injEq] at ran
    rw [← ran.1]
    simp
  · obtain ⟨regions, middle, ordered, ended⟩ := bind_ok_iff.mp ran
    simp only [run_pure, EStateM.Result.ok.injEq] at ended
    rw [← ended.1]
    intro query listed
    obtain ⟨region, offered, rfl⟩ := mem_map.mp listed
    have supported := (orderedFallbackRegions_perm api config ordered).subset offered
    constructor
    · intro settings bound
      refine keeps_bind (commonSupportedLetters_harmless faithful _ _ _ bound) fun letters => ?_
      split
      · exact keeps_pure _
      · exact keeps_pure _
    · intro settings reached candidate final probed
      obtain ⟨letters, _, _, rest⟩ := bind_ok_iff.mp probed
      split at rest
      · simp at rest
      · simp only [run_pure, EStateM.Result.ok.injEq, Option.some.injEq] at rest
        rw [← rest.1]
        exact (mem_filter.mp supported).1

/-- Looking for the next region keeps the world ready; a raise ends the run. -/
def ReadyStep (held : κ → Set String) (before : Set String)
    (step : Action κ (Option Candidate)) : Prop :=
  Sweeps held before (Ready held before) step fun found world => Ready held before world ∧
    ∀ candidate, found = some candidate → candidate.1 ∈ supportedGceRegions

lemma candidates_meets (faithful : Faithful api held) (entry : Placement) :
    Sweeps held before (Ready held before)
      (regionFallback api (getRegionFallbackCandidates api config) provisionOnce errorFactory
        partialCleanup entry).candidates.start
      fun steps world => Ready held before world ∧ ∀ step ∈ steps, ReadyStep held before step := by
  have listed : Meets (Ready held before)
      ((getRegionFallbackCandidates api config).lift Query.lift).start
      (fun steps world => Ready held before world ∧ ∀ step ∈ steps,
        Meets (Ready held before) step
          (fun found world => Ready held before world ∧
            ∀ candidate, found = some candidate → candidate.1 ∈ supportedGceRegions)
          fun _ => Ready held before)
      fun _ => Ready held before := by
    have asked : Keeps (Ready held before)
        (Query.lift (getRegionFallbackCandidates api config).start) := by
      refine lift_ready _ fun placement bound => ?_
      unfold getRegionFallbackCandidates
      simp only
      split
      · exact keeps_pure _
      · exact keeps_bind (orderedFallbackRegions_harmless faithful _ bound) fun _ => keeps_pure _
    refine meets_of (fun world steps after ready ran => ?_) fun world exc after ready ran => ?_
    · obtain ⟨queries, made, rfl⟩ := map_ok_iff.mp ran
      refine ⟨asked.of_ok ready made, fun step listed => ?_⟩
      obtain ⟨query, member, rfl⟩ := mem_map.mp listed
      obtain ⟨harmless, own⟩ := regionCandidates_start faithful (lift_ok made).2.2 query member
      refine meets_of (fun start found reached holds probed => ?_)
        fun start exc reached holds probed => (lift_ready query harmless).of_error holds probed
      refine ⟨(lift_ready query harmless).of_ok holds probed, ?_⟩
      rintro candidate rfl
      exact own _ _ _ _ (lift_ok probed).2.2
    · exact asked.of_error ready (map_error_iff.mp ran)
  refine meets_bind (restoringOnRaise_ready _ _ _ listed) fun steps => ?_
  refine meets_pure _ fun world reached => ⟨reached.1, fun step listed => ?_⟩
  obtain ⟨inner, member, rfl⟩ := mem_map.mp listed
  exact restoringOnRaise_ready _ _ _ (reached.2 inner member)

section Attempts

variable (faithful : Faithful api held) (harmless : HarmlessCleanup held partialCleanup)
  (tries : Attempts held before provisionOnce)

section Region

variable (keeps : KeepsRegions provisionOnce)
include faithful harmless tries keeps

variable (regionCandidates : Generator (Query κ) Candidate) (entry : Placement)

lemma attempt_meets (name : String) :
    Sweeps held before (ReadyIn held before · name)
      ((regionFallback api regionCandidates provisionOnce errorFactory partialCleanup
        entry).attempt (some name))
      (fun failure world => match failure with
        | none => Stopped held before world
        | some _ => Ready held before world) := by
  have single : Keeps (fun world : World κ => world.placement.configuredRegions = [name])
      provisionOnce :=
    meets_of (fun _ _ _ start ran => (keeps.of_ok ran).configuredRegions_eq.trans start)
      fun _ _ _ start ran => (keeps.of_error ran).configuredRegions_eq.trans start
  have guarded : Sweeps held before (ReadyIn held before · name)
      (tryCatch (do provisionOnce; pure none) fun exc =>
        if isCapacityError exc then pure (some exc)
        else do
          restoreRegion entry.configuredRegions.head? entry.availabilityZone entry.envRegion
          throw exc)
      (fun _ => (DirtyIn held before · name)) := by
    refine meets_tryCatch (meets_bind (tries.both single) fun _ =>
      meets_pure _ fun _ reached => reached) fun exc => ?_
    split
    · exact meets_pure _ fun _ reached => reached
    · exact (restoreRegion_throw _ _ _ exc).given fun _ reached => reached.1.recorded
  refine meets_bind guarded fun failure => ?_
  cases failure with
  | none => exact meets_pure _ fun _ reached => reached.1.stopped
  | some exc =>
    exact meets_bind (cleanupRegion_meets faithful harmless name) fun _ =>
      meets_pure _ fun _ reached => reached

lemma relocate_meets (carried : List String × Exc) {step : Action κ (Option Candidate)}
    (probing : ReadyStep held before step) :
    Sweeps held before (Ready held before)
      ((regionFallback api regionCandidates provisionOnce errorFactory partialCleanup
        entry).relocate carried step)
      (fun outcome world => match outcome with
        | .inl _ => Ready held before world
        | .inr () => Stopped held before world) := by
  refine meets_bind probing fun found => meets_of_fact fun supported => ?_
  cases found with
  | none => exact meets_pure _ fun _ ready => ready
  | some target =>
    have alone := words_of_isWord (isWord_of_supported (supported target rfl))
    have moved : Sweeps held before (Ready held before)
        (switchRegion target.1 target.2 : Action κ Unit)
        fun _ => (ReadyIn held before · target.1) :=
      meets_modify _ fun _ ready => ⟨⟨ready.recorded, rfl, ready.clean⟩, alone⟩
    refine meets_bind moved fun _ => meets_bind (attempt_meets faithful harmless tries keeps
      regionCandidates entry target.1) fun failure => ?_
    cases failure with
    | none => exact meets_pure _ fun _ stopped => stopped
    | some exc => exact meets_pure _ fun _ ready => ready

lemma regionFallback_meets {name : String} (single : entry.configuredRegions = [name]) :
    Sweeps held before (ReadyIn held before · name)
      (regionFallback api (getRegionFallbackCandidates api config) provisionOnce errorFactory
        partialCleanup entry).run fun _ => Stopped held before := by
  let fallback := regionFallback api (getRegionFallbackCandidates api config) provisionOnce
    errorFactory partialCleanup entry
  have original : fallback.originalRegion = some name := by
    simp [fallback, regionFallback, single]
  rw [RegionFallback.run, original]
  refine meets_bind (attempt_meets faithful harmless tries keeps _ entry name) fun failure => ?_
  cases failure with
  | none => exact meets_pure _ fun _ stopped => stopped
  | some exc =>
    refine meets_bind (candidates_meets faithful entry) fun steps =>
      meets_of_fact fun probing => ?_
    have moves := @meets_foldUntil _ _ _ _ _ (fun _ => Stopped held before) fallback.relocate
      (fun outcome world => match outcome with
        | .inl _ => Ready held before world
        | .inr () => Stopped held before world) steps ?_ ([], exc)
    · refine meets_bind moves fun outcome => ?_
      cases outcome with
      | inr _ => exact meets_pure _ fun _ stopped => stopped
      | inl carried => exact giveUp_meets _ _ _ _
    · intro carried step listed
      exact relocate_meets faithful harmless tries keeps _ entry carried (probing step listed)

end Region

include faithful

lemma probeDcRegion_harmless (configuredLetters : List String) (region : String)
    (placement : Placement) :
    Harmless held (probeDcRegion api config configuredLetters region placement) := by
  intro bound
  unfold probeDcRegion
  split
  · exact keeps_pure _
  · refine keeps_bind (commonSupportedLetters_harmless faithful _ _ _ bound) fun letters => ?_
    split
    · split
      · exact keeps_pure _
      · exact keeps_pure _
    · split
      · exact keeps_pure _
      · exact keeps_pure _

lemma probes_ready {steps : List (Action κ (Option Candidate))}
    (probes : Probes api config steps) :
    ∀ step ∈ steps, Keeps (Ready held before) step := by
  intro step listed
  obtain ⟨letters, region, _, rfl⟩ := probes step listed
  exact lift_ready _ fun placement => probeDcRegion_harmless faithful letters region placement

lemma dcCandidates_ready (dcIndex : Nat) :
    Keeps (Ready held before)
      ((getDcFallbackCandidates api config dcIndex).lift Query.lift).start := by
  refine keeps_map _ (lift_ready _ fun placement bound => ?_)
  unfold getDcFallbackCandidates
  simp only
  split
  · exact keeps_pure _
  · exact keeps_bind (orderedFallbackRegions_harmless faithful _ bound) fun _ => keeps_pure _

variable (entry : Placement) (dcIterators : DcIterators (World κ))

lemma nextCandidate_meets (dcIndex : Nat) :
    Sweeps held before (fun world => Ready held before world ∧ AllProbes api config dcIterators)
      ((dcFallback api config provisionOnce errorFactory partialCleanup entry).nextCandidate
        dcIterators dcIndex)
      fun found world => Ready held before world ∧ AllProbes api config found.2 := by
  refine meets_of_fact fun probes => ?_
  refine restoringOnRaise_ready _ _ _ ?_
  have ready : Meets (Ready held before)
      ((dcFallback api config provisionOnce errorFactory partialCleanup entry).iteratorOf
        dcIterators dcIndex)
      (fun steps world => Ready held before world ∧ Probes api config steps)
      fun _ => Ready held before := by
    unfold DcFallback.iteratorOf
    cases iterator : dcIterators dcIndex with
    | none =>
      exact meets_of (fun _ _ _ start ran => ⟨(dcCandidates_ready faithful dcIndex).of_ok start ran,
          (dcCandidates_start api config ran).2⟩)
        fun _ _ _ start ran => (dcCandidates_ready faithful dcIndex).of_error start ran
    | some steps => exact meets_pure _ fun _ start => ⟨start, probes dcIndex steps iterator⟩
  refine meets_bind ready fun steps => meets_of_fact fun mine => ?_
  refine meets_bind (DcFallback.nextOf_meets (probes_ready faithful mine)) fun found => ?_
  exact meets_pure _ fun world reached => ⟨reached.1, probes.update dcIndex
    fun step listed => mine step (reached.2 step listed)⟩

omit faithful in
lemma switchDcRegion_meets (dcIndex : Nat) (region : String) (azLetters : List String) :
    Sweeps held before (Ready held before)
      (switchDcRegion dcIndex region azLetters : Action κ Unit) fun _ => Ready held before := by
  refine meets_bind (meets_get fun _ ready => ready) fun world => ?_
  simp only
  split
  · exact meets_modify _ fun _ ready => ⟨ready.recorded, rfl, ready.clean⟩
  · exact meets_throw _ fun _ ready => ready.recorded.stopped

include harmless tries

lemma iteration_meets :
    Sweeps held before (fun world => Ready held before world ∧ AllProbes api config dcIterators)
      ((dcFallback api config provisionOnce errorFactory partialCleanup entry).iteration
        dcIterators)
      (fun outcome world => match outcome with
        | .inl next => Ready held before world ∧ AllProbes api config next
        | .inr () => Stopped held before world) := by
  refine meets_of_fact fun probes => ?_
  have guarded : Sweeps held before (Ready held before)
      (tryCatch (do provisionOnce; pure none) fun exc => pure (some exc))
      fun _ => Dirty held before := by
    refine meets_tryCatch (meets_bind tries fun _ => meets_pure _ fun _ dirty => dirty)
      fun exc => ?_
    exact meets_pure _ fun _ dirty => dirty
  refine meets_bind guarded fun failure => ?_
  cases failure with
  | none => exact meets_pure _ fun _ dirty => dirty.stopped
  | some exc =>
    simp only
    split
    · have attributed : Sweeps held before (Dirty held before)
          ((dcFallback api config provisionOnce errorFactory partialCleanup entry).failedDcIndex
            exc) fun _ => Dirty held before :=
        meets_bind (meets_get fun _ dirty => dirty) fun _ => meets_pure _ fun _ dirty => dirty
      have swept : Sweeps held before (Dirty held before)
          (Query.lift (cleanupDatacenters api partialCleanup)) fun _ => Ready held before :=
        (cleanupDatacenters_meets faithful harmless).raising fun _ _ dirty => dirty.stopped
      refine meets_bind attributed fun dcIndex => meets_bind swept fun _ => ?_
      cases dcIndex with
      | none => exact giveUp_meets _ _ _ _
      | some index =>
        refine meets_bind ((nextCandidate_meets faithful entry dcIterators index).given
          fun _ ready => ⟨ready, probes⟩) fun found => meets_of_fact fun later => ?_
        obtain ⟨candidate, nextIterators⟩ := found
        cases candidate with
        | none => exact giveUp_meets _ _ _ _
        | some target =>
          exact meets_bind (switchDcRegion_meets index target.1 target.2) fun _ =>
            meets_pure _ fun _ ready => ⟨ready, later⟩
    · exact (restoreRegion_throw _ _ _ exc).given fun _ dirty => dirty.recorded

lemma dcFallback_meets (fuel : Nat) :
    Sweeps held before (Ready held before)
      ((dcFallback api config provisionOnce errorFactory partialCleanup entry).run fuel)
      fun _ => Stopped held before := by
  have looped := @meets_repeatUntil _ _ _ _ (fun _ => Stopped held before)
    (dcFallback api config provisionOnce errorFactory partialCleanup entry).iteration
    (fun outcome world => match outcome with
      | .inl next => Ready held before world ∧ AllProbes api config next
      | .inr () => Stopped held before world)
    (fun _ => Stopped held before) (iteration_meets faithful harmless tries entry)
    (fun _ _ reached => reached.1.recorded.stopped) (fun _ _ stopped => stopped) fuel fun _ => none
  refine looped.given fun _ ready => ⟨ready, ?_⟩
  intro dcIndex steps known
  simp at known

end Attempts

end Loops

/-! ## The router -/

lemma ready_of_loaded {placement : Placement} (loaded : placement.Loaded)
    (some : placement.configuredRegions ≠ []) (cloud : κ) :
    Ready held (held cloud) ⟨placement, cloud, []⟩ :=
  ⟨fun event listed => by simp at listed, (loaded.parameterRegions_eq some).symm, subset_rfl⟩

section Router

variable (faithful : Faithful api held) {provisionOnce : Action κ Unit}
  {partialCleanup : Option (Query κ Unit)} (harmless : HarmlessCleanup held partialCleanup)
  {cloud : κ} (tries : Attempts held (held cloud) provisionOnce)
  (keeps : KeepsRegions provisionOnce) (errorFactory : String → Exc) {placement : Placement}
  (loaded : placement.Loaded)
include faithful harmless tries keeps loaded

lemma provisionWithRegionFallback_stopped :
    Sweeps held (held cloud) (fun world => world = ⟨placement, cloud, []⟩)
      (provisionWithRegionFallback api (getRegionFallbackCandidates api config) provisionOnce
        errorFactory partialCleanup)
      fun _ => Stopped held (held cloud) := by
  intro world start
  subst start
  by_cases single : placement.configuredRegions.length = 1
  · obtain ⟨name, names⟩ := length_eq_one_iff.mp single
    have nonempty : placement.configuredRegions ≠ [] := by simp [names]
    rw [provisionWithRegionFallback_run _ _ _ _ _ _ single]
    exact regionFallback_meets faithful harmless tries keeps placement names _
      ⟨ready_of_loaded loaded nonempty cloud, names⟩
  · obtain ⟨error, rejected⟩ := provisionWithRegionFallback_rejected api
      (getRegionFallbackCandidates api config) provisionOnce errorFactory partialCleanup
      ⟨placement, cloud, []⟩ single
    rw [rejected]
    intro event listed
    simp at listed

lemma provisionWithFallback_stopped (fuel : Nat) :
    Sweeps held (held cloud) (fun world => world = ⟨placement, cloud, []⟩)
      (provisionWithFallback api config provisionOnce errorFactory partialCleanup fuel)
      fun _ => Stopped held (held cloud) := by
  intro world start
  subst start
  by_cases several : 1 < placement.configuredRegions.length
  · have nonempty : placement.configuredRegions ≠ [] := by
      intro empty
      simp [empty] at several
    unfold provisionWithFallback provisionWithDcFallback
    rw [run_bind, run_get]
    simp only
    rw [if_pos several, run_bind, run_get]
    exact dcFallback_meets faithful harmless tries placement fuel _
      (ready_of_loaded loaded nonempty cloud)
  · unfold provisionWithFallback
    rw [run_bind, run_get]
    simp only
    rw [if_neg several]
    have routed := @provisionWithRegionFallback_stopped _ api config _ faithful _ _ harmless _
      tries keeps errorFactory _ loaded
    have mapped : Sweeps held (held cloud) (fun world => world = ⟨placement, cloud, []⟩)
        (some <$> _) fun _ => Stopped held (held cloud) := meets_map some routed
    exact mapped _ rfl

end Router

/-- What a run owes the attempts it makes, by the instances there were at its start. -/
structure LeavesNothingBehind {α : Type} (held : κ → Set String) (start : κ)
    (result : EStateM.Result Exc (World κ) α) : Prop where
  calls : ∀ event ∈ (exitState result).history, held event.cloud ⊆ held start
  gaveUp : ∀ event ∈ (exitState result).history, event.milestone = .exhausted →
    held (exitState result).cloud ⊆ held start

def listApi : Api (List String) where
  getZonesForRegion region := pure [region ++ "-b", region ++ "-c"]
  getZonesForMachineType region _ := pure [region ++ "-b", region ++ "-c"]
  getZoneAdvice _ _ _ _ := pure []
  randomChoice _ := pure 0
  zonesWithInstances := get
  cleanupZone zone := modify fun zones => zones.filter (· ≠ zone)

/-- An attempt that creates an instance in `us-east1`, when it is configured, and then finds no
capacity. -/
def halfCreated : ProvisionStep (List String) where
  body placement := do
    if placement.configuredRegions.contains "us-east1" then
      modify fun state => (state.1, "us-east1-b" :: state.2)
    throw (.raised .zoneResourcesExhaustedError "us-east1-b: stockout")

def listedZones (zones : List String) : Set String := {zone | zone ∈ zones}

lemma listApi_faithful : Faithful listApi listedZones where
  discovers cloud := ⟨cloud, cloud, rfl, fun _ listed => listed, subset_rfl⟩
  deletes zone cloud := by
    refine ⟨cloud.filter (· ≠ zone), rfl, fun other left => ?_⟩
    have kept := mem_filter.mp left
    exact ⟨kept.1, by simpa using kept.2⟩
  regionZones _ _ := keeps_pure _
  typeZones _ _ _ := keeps_pure _
  advice _ _ _ _ _ := keeps_pure _

lemma halfCreated_creates : CreatesInConfigured listedZones halfCreated := by
  intro placement state
  by_cases configured : placement.configuredRegions.contains "us-east1"
  · have ran : (halfCreated.body placement).run state =
        .error (.raised .zoneResourcesExhaustedError "us-east1-b: stockout")
          (state.1, "us-east1-b" :: state.2) := by
      simp only [halfCreated, configured, ↓reduceIte, run_bind]
      rfl
    rw [ran]
    intro zone left
    rcases mem_cons.mp left with rfl | earlier
    · exact .inr ⟨"us-east1", by simpa using configured, by decide⟩
    · exact .inl earlier
  · have ran : (halfCreated.body placement).run state =
        .error (.raised .zoneResourcesExhaustedError "us-east1-b: stockout") state := by
      simp only [halfCreated, configured]
      rfl
    rw [ran]
    exact fun zone left => .inl left

def retryingConfig : Config := { filteringConfig with fallbackToNextAvailabilityZone := some true }

end Sct.Gce
