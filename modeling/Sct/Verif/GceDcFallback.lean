import Sct.Provision.Common.DcRuns
import Sct.Verif.GceRegion

/-!
# Placements of the multi-DC fallback

Each data center walks through its own lazily probed list of regions while the others move. A
probe reads the settings when it runs, so a region that a sibling moved into meanwhile is
skipped: at the start of every attempt the configured data centers are pairwise distinct and as
many as at entry. The fallback never writes `availability_zone`, so an attempt starts with the
zones the one before it left.
-/

open Sct.Effect Sct.DcFallback
open List
open EStateM (run_pure)
open EStateM (Result)

namespace Sct.Gce

variable {κ : Type} (api : Api κ) (config : Config)

/-! ## Where candidates come from -/

variable {cloud after : κ}

lemma rankRegions_perm {regions ranked : List String}
    {zonesPerRegion : List (String × List String)}
    (ran : (rankRegions api config regions zonesPerRegion).run cloud = .ok (some ranked) after) :
    ranked.Perm regions := by
  unfold rankRegions at ran
  split at ran
  · rename_i empty
    simp only [run_pure, Result.ok.injEq, Option.some.injEq] at ran
    rw [← ran.1, List.isEmpty_iff.mp empty]
  · obtain ⟨best, middle, _, rest⟩ := bind_ok_iff.mp ran
    split at rest
    · simp at rest
    · simp only [run_pure, Result.ok.injEq, Option.some.injEq] at rest
      rw [← rest.1]
      refine ((perm_insertionSort _ _).append_right _).trans ?_
      have complement : (fun region => (best.lookup region).isNone) =
          fun region => !(best.lookup region).isSome := by
        simp
      rw [complement]
      exact filter_append_perm _ regions

lemma orderedFallbackRegions_perm {exclude regions : List String}
    (ran : (orderedFallbackRegions api config exclude).run cloud = .ok regions after) :
    regions.Perm (supportedGceRegions.filter fun region => !exclude.contains region) := by
  unfold orderedFallbackRegions at ran
  simp only at ran
  split at ran
  · simp only [run_pure, Result.ok.injEq] at ran
    rw [← ran.1]
  · obtain ⟨zones, middle, _, rest⟩ := bind_ok_iff.mp ran
    obtain ⟨ranking, reached, ranked, ended⟩ := bind_ok_iff.mp rest
    cases ranking with
    | none =>
      simp only [run_pure, Result.ok.injEq] at ended
      rw [← ended.1]
    | some names =>
      simp only [run_pure, Result.ok.injEq] at ended
      rw [← ended.1]
      split
      · exact List.Perm.refl _
      · exact rankRegions_perm api config ranked

variable {region : String}

lemma isWord_of_supported (listed : region ∈ supportedGceRegions) : IsWord region := by
  have split : ∀ name ∈ supportedGceRegions, words name = [name] := by decide
  have self := split region listed
  exact isWord_of_mem_words (self ▸ mem_singleton_self region)

lemma probeDcRegion_some {configuredLetters : List String} {placement : Placement}
    {candidate : Candidate}
    (ran : (probeDcRegion api config configuredLetters region placement).run cloud = .ok (some
      candidate) after) : candidate.1 = region ∧ region ∉ placement.regionNames := by
  unfold probeDcRegion at ran
  split at ran
  · simp at ran
  · rename_i free
    obtain ⟨letters, middle, _, rest⟩ := bind_ok_iff.mp ran
    refine ⟨?_, by simpa using free⟩
    split at rest
    · split at rest
      · simp at rest
      · simp only [run_pure, Result.ok.injEq, Option.some.injEq] at rest
        rw [← rest.1]
    · split at rest
      · simp at rest
      · simp only [run_pure, Result.ok.injEq, Option.some.injEq] at rest
        rw [← rest.1]

/-- The steps of a data center's iterator are probes of supported regions. -/
def Probes (steps : List (Action κ (Option Candidate))) : Prop :=
  ∀ step ∈ steps, ∃ configuredLetters, ∃ region ∈ supportedGceRegions,
    step = (probeDcRegion api config configuredLetters region).lift

variable {world after : World κ}

lemma dcCandidates_start {dcIndex : Nat} {steps : List (Action κ (Option Candidate))}
    (began : ((getDcFallbackCandidates api config dcIndex).lift Query.lift).start.run world =
      .ok steps after) : after.placement = world.placement ∧ Probes api config steps := by
  obtain ⟨queries, made, rfl⟩ := map_ok_iff.mp began
  obtain ⟨same, _, ran⟩ := lift_ok made
  refine ⟨same, ?_⟩
  unfold getDcFallbackCandidates at ran
  simp only at ran
  split at ran
  · simp only [run_pure, Result.ok.injEq] at ran
    rw [← ran.1]
    intro step listed
    simp at listed
  · obtain ⟨regions, middle, ordered, ended⟩ := bind_ok_iff.mp ran
    simp only [run_pure, Result.ok.injEq] at ended
    rw [← ended.1]
    intro step listed
    obtain ⟨query, member, rfl⟩ := mem_map.mp listed
    obtain ⟨region, offered, rfl⟩ := mem_map.mp member
    have supported := (orderedFallbackRegions_perm api config ordered).subset offered
    exact ⟨_, region, (mem_filter.mp supported).1, rfl⟩

lemma nextOf_probes {steps rest : List (Action κ (Option Candidate))}
    (probes : Probes api config steps) {found : Option Candidate}
    (ran : (nextOf steps).run world = .ok (found, rest) after) :
    after.placement = world.placement ∧ Probes api config rest ∧
      ∀ candidate, found = some candidate →
        candidate.1 ∈ supportedGceRegions ∧ candidate.1 ∉ world.placement.regionNames := by
  induction steps generalizing world with
  | nil =>
    obtain ⟨⟨rfl, rfl⟩, rfl⟩ := ran
    exact ⟨rfl, probes, by simp⟩
  | cons step others ih =>
    have later : Probes api config others :=
      fun item listed => probes item (mem_cons_of_mem step listed)
    obtain ⟨letters, region, supported, rfl⟩ := probes step mem_cons_self
    obtain ⟨outcome, middle, stepped, remaining⟩ := bind_ok_iff.mp ran
    obtain ⟨same, _, probed⟩ := lift_ok stepped
    cases outcome with
    | none =>
      have rest := ih later remaining
      rw [same] at rest
      exact rest
    | some candidate =>
      obtain ⟨⟨rfl, rfl⟩, rfl⟩ := remaining
      obtain ⟨named, free⟩ := probeDcRegion_some api config probed
      refine ⟨same, later, ?_⟩
      rintro _ ⟨⟩
      rw [named]
      exact ⟨supported, free⟩

section

variable (provisionOnce : Action κ Unit) (errorFactory : String → Exc)
  (partialCleanup : Option (Query κ Unit))

def AllProbes (dcIterators : DcIterators (World κ)) : Prop :=
  ∀ dcIndex steps, dcIterators dcIndex = some steps → Probes api config steps

lemma AllProbes.update {api : Api κ} {config : Config} {dcIterators : DcIterators (World κ)}
    (probes : AllProbes api config dcIterators) (dcIndex : Nat)
    {steps : List (Action κ (Option Candidate))} (mine : Probes api config steps) :
    AllProbes api config (Function.update dcIterators dcIndex (some steps)) := by
  intro other left known
  by_cases same : other = dcIndex
  · subst same
    rw [Function.update_self] at known
    exact Option.some.inj known ▸ mine
  · rw [Function.update_of_ne same] at known
    exact probes other left known

variable {entry : Placement} {dcIndex : Nat} {after : World κ} {world : World κ}

lemma nextCandidate_free {dcIterators nextIterators : DcIterators (World κ)}
    (probes : AllProbes api config dcIterators) {found : Option Candidate}
    (ran : ((dcFallback api config provisionOnce errorFactory partialCleanup entry).nextCandidate
      dcIterators dcIndex).run world = .ok (found, nextIterators) after) :
    after.placement = world.placement ∧ AllProbes api config nextIterators ∧
      ∀ candidate, found = some candidate →
        candidate.1 ∈ supportedGceRegions ∧ candidate.1 ∉ world.placement.regionNames := by
  obtain ran | ⟨exc, middle, _, handled⟩ := tryCatch_ok_iff.mp ran
  · obtain ⟨steps, began, made, rest⟩ := bind_ok_iff.mp ran
    obtain ⟨⟨value, others⟩, middle, searched, ended⟩ := bind_ok_iff.mp rest
    obtain ⟨⟨rfl, rfl⟩, rfl⟩ := ended
    have ready : began.placement = world.placement ∧ Probes api config steps := by
      unfold iteratorOf at made
      cases iterator : dcIterators dcIndex with
      | none =>
        rw [iterator] at made
        exact dcCandidates_start api config made
      | some earlier =>
        rw [iterator] at made
        simp only [run_pure, Result.ok.injEq] at made
        obtain ⟨rfl, rfl⟩ := made
        exact ⟨rfl, probes dcIndex earlier iterator⟩
    obtain ⟨same, left, free⟩ := nextOf_probes api config ready.2 searched
    rw [ready.1] at same free
    exact ⟨same, probes.update dcIndex left, free⟩
  · obtain ⟨_, _, _, threw⟩ := bind_ok_iff.mp handled
    simp at threw

/-! ## Distinct data centers -/

/-- Both readers see the same, pairwise distinct regions, so many of them. -/
structure Spread (count : Nat) (placement : Placement) : Prop where
  agree : placement.configuredRegions = placement.parameterRegions
  distinct : placement.configuredRegions.Nodup
  counted : placement.configuredRegions.length = count

variable {count : Nat}

lemma Spread.of_sameRegions {before after : Placement} (spread : Spread count before)
    (same : after.SameRegions before) : Spread count after := by
  constructor
  · rw [same.configuredRegions_eq, Placement.parameterRegions, same.2]
    exact spread.agree
  · rw [same.configuredRegions_eq]
    exact spread.distinct
  · rw [same.configuredRegions_eq]
    exact spread.counted

variable {region : String}

lemma Spread.move {placement : Placement} (spread : Spread count placement) (dcIndex : Nat)
    (word : IsWord region) (free : region ∉ placement.parameterRegions) :
    Spread count (placement.withRegions (placement.parameterRegions.set dcIndex region)) := by
  have all : ∀ name ∈ placement.parameterRegions.set dcIndex region, IsWord name := by
    intro name listed
    rcases mem_or_eq_of_mem_set listed with kept | rfl
    · exact isWord_of_mem_words kept
    · exact word
  have configured := @Placement.withRegions_configuredRegions placement _ all
  have distinct : placement.parameterRegions.Nodup := spread.agree ▸ spread.distinct
  constructor
  · rw [configured]
    exact (words_unwords all).symm
  · rw [configured]
    exact distinct.set free
  · rw [configured, length_set, ← spread.agree]
    exact spread.counted

lemma switchDcRegion_ok (azLetters : List String)
    (ran : (switchDcRegion dcIndex region azLetters).run world = .ok () after) :
    after = world.withPlacement
      (world.placement.withRegions (world.placement.parameterRegions.set dcIndex region)) := by
  rw [switchDcRegion, EStateM.run_bind, EStateM.run_get] at ran
  simp only at ran
  split at ran
  · exact (Result.ok.inj ran).2.symm
  · simp at ran

lemma moved_spread (keeps : KeepsRegions provisionOnce) {candidate : Candidate}
    {last next : DcIterators (World κ)} {state : World κ}
    (moved : Moved (dcFallback api config provisionOnce errorFactory partialCleanup entry) dcIndex
      candidate last state next after) (spread : Spread count state.placement)
    (probes : AllProbes api config last) :
    Spread count after.placement ∧ AllProbes api config next ∧
      ∃ exc failed, provisionOnce.run state = .error exc failed ∧ isCapacityError exc = true ∧
        after.placement.availabilityZone = failed.placement.availabilityZone := by
  obtain ⟨exc, failed, attributed, cleaned, found, provisioned, capacity, attribution, cleanup,
    searched, switched⟩ := moved
  have failedSpread := spread.of_sameRegions (keeps.of_error provisioned)
  have unread : failed = attributed := (Result.ok.inj attribution).2
  subst unread
  obtain ⟨swept, _⟩ := lift_ok cleanup
  obtain ⟨probed, left, free⟩ :=
    nextCandidate_free api config provisionOnce errorFactory partialCleanup probes searched
  obtain ⟨supported, unoccupied⟩ := free candidate rfl
  have same : found.placement = failed.placement := probed.trans swept
  have ended := switchDcRegion_ok candidate.2 switched
  rw [same] at ended
  rw [swept] at unoccupied
  have unlisted : candidate.1 ∉ failed.placement.parameterRegions := by
    have names : failed.placement.regionNames = failed.placement.parameterRegions := by
      unfold Placement.regionNames
      split
      · rfl
      · exact failedSpread.agree
    rw [names] at unoccupied
    exact unoccupied
  refine ⟨?_, left, exc, failed, provisioned, capacity, ?_⟩
  · rw [ended]
    exact failedSpread.move dcIndex (isWord_of_supported supported) unlisted
  · rw [ended]
    rfl

/-- A failed attempt leaves `availability_zone` as it found it. -/
def QuietZones : Prop :=
  ∀ world exc failed, provisionOnce.run world = .error exc failed → isCapacityError exc = true →
    failed.placement.availabilityZone = world.placement.availabilityZone

lemma moves_spread (keeps : KeepsRegions provisionOnce) {moves : List (Nat × Candidate)}
    {first last : DcIterators (World κ)} {start state : World κ}
    (moved : Moves (dcFallback api config provisionOnce errorFactory partialCleanup entry) moves
      first start last state) (spread : Spread count start.placement)
    (probes : AllProbes api config first) :
    Spread count state.placement ∧ AllProbes api config last ∧
      (QuietZones provisionOnce →
        state.placement.availabilityZone = start.placement.availabilityZone) := by
  induction moved with
  | nil dcIterators state => exact ⟨spread, probes, fun _ => rfl⟩
  | snoc earlier moved ih =>
    obtain ⟨reached, ready, zones⟩ := ih spread probes
    obtain ⟨later, left, exc, failed, provisioned, capacity, kept⟩ :=
      moved_spread api config provisionOnce errorFactory partialCleanup keeps moved reached ready
    refine ⟨later, left, fun quiet => ?_⟩
    rw [kept, quiet _ exc failed provisioned capacity]
    exact zones quiet

/-- Started from pairwise distinct regions, the multi-DC fallback starts every attempt with
pairwise distinct regions, as many as at entry. It never writes `availability_zone` itself: an
attempt starts with the zones the one before it left, and with those at entry when no failed
attempt rewrites them. -/
theorem attempts_spread (keeps : KeepsRegions provisionOnce) (entry : World κ)
    (loaded : entry.placement.Loaded) (several : 1 < entry.placement.configuredRegions.length)
    (distinct : entry.placement.configuredRegions.Nodup) (moves : List (Nat × Candidate))
    (last : DcIterators (World κ)) (start : World κ)
    (reached : Moves (dcFallback api config provisionOnce errorFactory partialCleanup
      entry.placement) moves (fun _ => none) entry last start) :
    start.placement.configuredRegions.Nodup ∧
      start.placement.configuredRegions.length = entry.placement.configuredRegions.length ∧
      (QuietZones provisionOnce →
        start.placement.availabilityZone = entry.placement.availabilityZone) ∧
      ∀ dcIndex candidate next after,
        Moved (dcFallback api config provisionOnce errorFactory partialCleanup entry.placement)
          dcIndex candidate last start next after →
        ∃ exc failed, provisionOnce.run start = .error exc failed ∧
          after.placement.availabilityZone = failed.placement.availabilityZone := by
  have nonempty : entry.placement.configuredRegions ≠ [] := by
    intro empty
    simp [empty] at several
  have spread : Spread entry.placement.configuredRegions.length entry.placement :=
    ⟨(loaded.parameterRegions_eq nonempty).symm, distinct, rfl⟩
  have fresh : AllProbes api config fun _ => none := by
    intro dcIndex steps known
    simp at known
  obtain ⟨final, probes, zones⟩ := moves_spread api config provisionOnce errorFactory
    partialCleanup keeps reached spread fresh
  refine ⟨final.distinct, final.counted, zones, ?_⟩
  intro dcIndex candidate next after moved
  obtain ⟨_, _, exc, failed, provisioned, _, kept⟩ := moved_spread api config provisionOnce
    errorFactory partialCleanup keeps moved final probes
  exact ⟨exc, failed, provisioned, kept⟩

end

/-! ## Zones across attempts -/

def twoZoneApi : Api κ where
  getZonesForRegion region := pure [region ++ "-b", region ++ "-c"]
  getZonesForMachineType region _ := pure [region ++ "-b", region ++ "-c"]
  getZoneAdvice _ _ _ _ := pure []
  randomChoice _ := pure 0
  zonesWithInstances := pure []
  cleanupZone _ := pure ()

def filteringConfig : Config where
  machineType param := if param = .db then "n2-highmem-4" else ""
  nDbNodes := .perRegion [3, 3]
  nLoaders := .unset
  nMonitorNodes := .unset
  nTestOracleDbNodes := .unset
  nDbZeroTokenNodes := .unset
  nVectorStoreNodes := .unset
  dbType := "scylla"
  useZeroNodes := false
  clusterBackend := "gce"
  instanceProvision := "on_demand"
  useSpotPlacementScores := false
  gceSpotObtainabilityMin := none
  spotScoreOverridesConfiguredAz := false
  availabilityZoneExplicitlySet := false
  preFilterUnavailableAvailabilityZones := true
  fallbackToNextAvailabilityZone := some false
  awsFallbackToNextAvailabilityZone := false

def eastStockedOut : ProvisionStep Unit :=
  .ofQuery (throw (.raised .zoneResourcesExhaustedError "us-east1-b: stockout"))

def pairEntry : World Unit where
  placement := ⟨none, some "us-east1 us-west1", none⟩
  cloud := ()
  history := []

def legacyPair : DcFallback (World Unit) :=
  dcFallback twoZoneApi filteringConfig
    (getClusterGceOnce twoZoneApi filteringConfig eastStockedOut)
    (Exc.raised (.other "CriticalTestFailure")) none pairEntry.placement

lemma legacyPair_second_attempt : ∃ moves last, moves.length = 1 ∧
    Moves legacyPair moves (fun _ => none) pairEntry last (pairEntry.withPlacement
      ⟨some "us-east4 us-west1", some "us-east4 us-west1", some "b"⟩) := by
  have ran : (legacyPair.run 1).run pairEntry = .ok none (pairEntry.withPlacement
      ⟨some "us-east4 us-west1", some "us-east4 us-west1", some "b"⟩) := by
    decide +kernel
  obtain ⟨last, laps⟩ := laps_of_repeatUntil_none ran
  obtain ⟨moves, count, moved⟩ := moves_of_laps laps (.nil _ pairEntry)
  exact ⟨moves, last, count, moved⟩

/-- The second legacy attempt starts with a zone that was not configured at entry. -/
theorem legacyPair_rewrites_zones :
    ¬ ∀ moves last start, Moves legacyPair moves (fun _ => none) pairEntry last start →
      start.placement.configuredRegions.Nodup ∧
      start.placement.configuredRegions.length = pairEntry.placement.configuredRegions.length ∧
      start.placement.availabilityZone = pairEntry.placement.availabilityZone := by
  intro claim
  obtain ⟨moves, last, _, moved⟩ := legacyPair_second_attempt
  have kept := (claim moves last _ moved).2.2
  exact absurd kept (by decide)

/-- The second legacy attempt starts with two distinct regions. -/
theorem legacyPair_spread : ∃ moves last start, moves.length = 1 ∧
    Moves legacyPair moves (fun _ => none) pairEntry last start ∧
      start.placement.configuredRegions.Nodup ∧
      start.placement.configuredRegions.length = 2 := by
  obtain ⟨moves, last, count, moved⟩ := legacyPair_second_attempt
  obtain ⟨distinct, counted, _⟩ := attempts_spread twoZoneApi filteringConfig _ _ none
    (getClusterGceOnce_keepsRegions _ _ _) pairEntry (fun _ => by decide) (by decide) (by decide)
    moves last _ moved
  exact ⟨moves, last, _, count, moved, distinct, counted⟩

/-! ## The placement put back -/

/-- Where the run puts the placement back, it is the one at entry. -/
lemma settled_dcFallback (provisionOnce : Action κ Unit) (errorFactory : String → Exc)
    (partialCleanup : Option (Query κ Unit)) {entry : Placement} (loaded : entry.Loaded)
    (configured : entry.configuredRegions ≠ []) :
    Settled (dcFallback api config provisionOnce errorFactory partialCleanup entry)
      (·.withPlacement entry) where
  restores world := by
    have joined : joinedRegions entry.configuredRegions =
        some (unwords entry.configuredRegions) :=
      if_neg (mt List.isEmpty_iff.mp configured)
    have back := Placement.restored_unwords loaded configured world.placement
    show (writePlacement fun placement => placement.restored
      (joinedRegions entry.configuredRegions) entry.availabilityZone entry.envRegion).run world = _
    rw [joined]
    exact congrArg (fun placement => Result.ok () (world.withPlacement placement)) back
  builds _ _ := ⟨_, _, rfl⟩

/-! ## Attribution -/

/-- The first item a wider test finds is the one a narrower test finds, exactly if none before that
one passes the wider. -/
lemma findIdx?_eq_iff {α : Type} {wide narrow : α → Bool}
    (wider : ∀ item, narrow item = true → wide item = true) (items : List α) :
    items.findIdx? wide = items.findIdx? narrow ↔
      ∀ item ∈ items.takeWhile fun item => !narrow item, wide item = false := by
  induction items with
  | nil => simp
  | cons first rest ih =>
    rw [findIdx?_cons, findIdx?_cons]
    cases own : narrow first with
    | true => simp [own, wider first own]
    | false =>
      cases passes : wide first with
      | true => simp [own, passes]
      | false =>
        have shifted := (Option.map_injective (add_left_injective 1)).eq_iff
          (a := rest.findIdx? wide) (b := rest.findIdx? narrow)
        simpa [own, passes] using shifted.trans ih

/-- The zone a message names. It names no other region: a configured region that stands in the
message stands in the name of the zone. -/
structure NamedZone (message : String) (regions : List String) where
  region : String
  letter : Char
  isRegion : region ≠ ""
  named : contains message (region ++ "-" ++ letter.toString) = true
  only : ∀ other ∈ regions, contains message other = true →
    contains (region ++ "-" ++ letter.toString) other = true

lemma contains_trans {text part needle : String} (outer : contains text part = true)
    (inner : contains part needle = true) : contains text needle = true := by
  simp only [contains, decide_eq_true_eq] at *
  exact inner.trans outer

/-- The error is attributed to the data center in the region of the zone, if there is one, exactly
if no configured region in front of that region is part of the name of the zone; and an iteration
that fails with the error relocates the data center it is attributed to, or none. -/
theorem attributed_to_zone_iff (provisionOnce : Action κ Unit) (errorFactory : String → Exc)
    (partialCleanup : Option (Query κ Unit)) (entry : Placement) (exc : Exc) (failed : World κ)
    (zone : NamedZone exc.message failed.placement.parameterRegions) :
    (failedDcIndex exc failed.placement =
        failed.placement.parameterRegions.findIdx? (· = zone.region) ↔
      ∀ other ∈ failed.placement.parameterRegions.takeWhile (· ≠ zone.region),
        other = "" ∨ contains (zone.region ++ "-" ++ zone.letter.toString) other = false) ∧
    ∀ dcIterators state, provisionOnce.run state = .error exc failed →
      ∀ dcIndex candidate nextIterators after,
        Moved (dcFallback api config provisionOnce errorFactory partialCleanup entry) dcIndex
          candidate dcIterators state nextIterators after →
        failedDcIndex exc failed.placement = some dcIndex := by
  constructor
  · have inZone : contains (zone.region ++ "-" ++ zone.letter.toString) zone.region = true := by
      simp only [contains, String.append_assoc, String.toList_append, decide_eq_true_eq]
      exact (prefix_append _ _).isInfix
    have wider (region : String) (own : decide (region = zone.region) = true) :
        (decide (region ≠ "") && contains exc.message region) = true := by
      obtain rfl := of_decide_eq_true own
      simp [zone.isRegion, contains_trans zone.named inZone]
    rw [failedDcIndex, findIdx?_eq_iff wider]
    simp only [← decide_not]
    apply forall₂_congr
    intro other front
    have listed := (takeWhile_sublist _).subset front
    have inMessage := Bool.eq_iff_iff.mpr ⟨zone.only other listed, contains_trans zone.named⟩
    rw [inMessage, Bool.and_eq_false_iff, decide_eq_false_iff_not, not_not]
  · intro dcIterators state raised dcIndex candidate nextIterators after moved
    obtain ⟨_, _, attributed, _, _, provisioned, -, attribution, -⟩ := moved.step
    have same : Result.error exc failed = .error _ _ := raised.symm.trans provisioned
    obtain ⟨rfl, rfl⟩ := Result.error.inj same
    exact (Result.ok.inj attribution).1

/-- The zone `europe-west10-a` is out of capacity, and the data center in `europe-west1` is to
move. -/
theorem shorter_region_blamed :
    failedDcIndex (.raised .zoneResourcesExhaustedError "europe-west10-a: stockout")
        ⟨none, some "europe-west1 europe-west10", none⟩ = some 0 ∧
      (Placement.parameterRegions ⟨none, some "europe-west1 europe-west10", none⟩).findIdx?
        (· = "europe-west10") = some 1 ∧
      contains "europe-west10-a: stockout" "europe-west10-a" = true := by
  decide +kernel

end Sct.Gce
