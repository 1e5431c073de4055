import Mathlib.Algebra.Order.BigOperators.Group.Finset
import Sct.Verif.AwsCluster
import Sct.Verif.AwsDcMove

/-!
# Moves of data centers on AWS

A capacity error of a data center moves it to a region that no data center is in and that it was
not in before. So the regions stay distinct, a data center is asked for once in a region, and there
are no more moves than data centers times regions. What is launched in a region that does not fail
is neither terminated nor asked for again.

The zones are another matter: a region qualifies by the number of its zones, and the letters of
`availability_zone` stay as they are.
-/

open Sct.Effect
open List

namespace Sct.Aws

variable {κ : Type} {layout : Layout (DbCloud κ)} {parts : DbParts κ} {config : Config}
  {api : Api κ} {alive : κ → DbInstance → Prop} {launched : DbInstance} {region : String}

/-! ## One attempt -/

def World.regions {σ : Type} (world : World σ) : List String :=
  world.settings.placement.configuredRegions

namespace Layout

variable {σ : Type}

def provisioning (layout : Layout σ) (world : World σ) : EStateM.Result Exc (World σ) Unit :=
  (layout.provisionDb (layout.completedDbRegionIds world)).lift.run world

lemma dbAttempt_run (layout : Layout σ) (config : Config) (api : Api σ) (tried : TriedByDc)
    (world : World σ) :
    (layout.dbAttempt config api tried).run world = match layout.provisioning world with
      | .ok _ after => .ok (.inr ()) after
      | .error exc after =>
        if isCapacityFailure exc then
          (Sum.inl <$> layout.relocateFailedDbDc config api exc tried).run after
        else .error exc after := by
  unfold dbAttempt provisioning
  rw [EStateM.run_bind, EStateM.run_get]
  simp only
  rw [EStateM.run_bind, run_tryCatch, EStateM.run_bind]
  cases (layout.provisionDb (layout.completedDbRegionIds world)).lift.run world with
  | ok value after => rfl
  | error exc after =>
    simp only
    by_cases lacking : isCapacityFailure exc = true
    · rw [if_pos lacking, if_pos lacking]
      rfl
    · rw [if_neg lacking, if_neg lacking]
      rfl

def FailsIn (layout : Layout σ) (world : World σ) (region : String) : Prop :=
  ∃ exc after, layout.provisioning world = .error exc after ∧ isCapacityFailure exc = true ∧
    exc.failedRegion = some region

def AsksFor (layout : Layout (DbCloud κ)) (config : Config) (api : Api (DbCloud κ))
    (tried : TriedByDc) (world : World (DbCloud κ)) (dcIndex : Nat) : Prop :=
  ∃ request ∈ (exitState ((layout.dbAttempt config api tried).run world)).cloud.requests.drop
    world.cloud.requests.length, request.regionId = dcIndex

end Layout

/-- A move keeps what it does not disturb; without a move an attempt ends as its provisioning
does. -/
lemma dbAttempt_exit {holds : DbCloud κ → Prop} (tried : Layout.TriedByDc)
    (world : World (DbCloud κ))
    (calm : ∀ region, (layout.withDb parts).FailsIn world region →
      Undisturbed parts api region holds)
    (held : holds (exitState ((layout.withDb parts).provisioning world)).cloud) :
    holds (exitState (((layout.withDb parts).dbAttempt config api.onCluster
      tried).run world)).cloud := by
  rw [Layout.dbAttempt_run]
  cases ran : (layout.withDb parts).provisioning world with
  | ok value after =>
    rw [ran] at held
    exact held
  | error exc after =>
    rw [ran] at held
    simp only
    split
    · rename_i lacking
      have undisturbed : ∀ region, exc.failedRegion = some region →
          Undisturbed parts api region holds :=
        fun region tagged => calm region ⟨exc, after, ran, lacking, tagged⟩
      have moved := @relocateFailedDbDc_meets _ layout _ config _ _ after.settings.placement _
        undisturbed tried after ⟨rfl, held⟩
      rw [exitState_map]
      cases relocated : ((layout.withDb parts).relocateFailedDbDc config api.onCluster exc
          tried).run after with
      | ok next last =>
        rw [relocated] at moved
        exact moved.1
      | error raised last =>
        rw [relocated] at moved
        exact moved
    · exact held

section Attempt

variable (laws : Ec2Laws parts api alive)

include laws

lemma provisioning_ended (layout : Layout (DbCloud κ)) (world : World (DbCloud κ)) :
    match (layout.withDb parts).provisioning world with
    | .ok _ after => after.settings = world.settings ∧
      Provisioned alive (parts.clusterAt world.settings)
        ((layout.withDb parts).completedDbRegionIds world) world.cloud none after.cloud
    | .error exc after => after.settings = world.settings ∧
      StoppedAt alive (parts.clusterAt world.settings)
        ((layout.withDb parts).completedDbRegionIds world) world.cloud exc after.cloud := by
  have entered : Provisioned alive (parts.clusterAt world.settings)
      ((layout.withDb parts).completedDbRegionIds world) world.cloud none world.cloud :=
    ⟨fun _ held => held, [], (append_nil _).symm, fun _ asked => nomatch asked⟩
  have meets := provision_meets laws (parts.clusterAt world.settings)
    ((layout.withDb parts).completedDbRegionIds world) world.cloud
  cases ran : (layout.withDb parts).provisioning world with
  | ok value after =>
    obtain ⟨cloud, provisioned, rfl⟩ := query_ok ran
    obtain ⟨instances, middle, launched, ended⟩ := bind_ok_iff.mp provisioned
    cases ended
    exact ⟨rfl, meets.of_ok entered launched⟩
  | error exc after =>
    obtain ⟨cloud, provisioned, rfl⟩ := query_error ran
    rcases bind_error_iff.mp provisioned with stopped | ⟨_, _, _, ended⟩
    · exact ⟨rfl, meets.of_error entered stopped⟩
    · exact nomatch ended

variable {world : World (DbCloud κ)}

lemma provisioning_held (layout : Layout (DbCloud κ)) (held : Held alive launched world.cloud) :
    Held alive launched (exitState ((layout.withDb parts).provisioning world)).cloud := by
  have ended := provisioning_ended laws layout world
  cases ran : (layout.withDb parts).provisioning world with
  | ok value after =>
    rw [ran] at ended
    exact ended.2.held launched held
  | error exc after =>
    rw [ran] at ended
    obtain ⟨dcIndex, within, blamed, provisioned⟩ := ended.2
    exact provisioned.held launched held

lemma dbAttempt_spares (tried : Layout.TriedByDc) (world : World (DbCloud κ))
    (there : Held alive launched world.cloud ∨
      Held alive launched (exitState ((layout.withDb parts).provisioning world)).cloud)
    (unfailing : ¬(layout.withDb parts).FailsIn world launched.region) :
    Held alive launched (exitState (((layout.withDb parts).dbAttempt config api.onCluster
      tried).run world)).cloud := by
  apply dbAttempt_exit tried world
  · intro region fails
    apply undisturbed_held laws
    intro same
    rw [same] at unfailing
    exact unfailing fails
  · exact there.elim (provisioning_held laws layout) fun held => held

variable {dcIndex : Nat}

omit laws in
lemma regions_eq_some (within : dcIndex < world.regions.length) :
    world.regions[dcIndex]? = some ((parts.clusterAt world.settings).region dcIndex) := by
  have named : (parts.clusterAt world.settings).region dcIndex =
      world.regions.getD dcIndex "" := rfl
  rw [named, getD_eq_getElem?_getD, getElem?_eq_getElem within, Option.getD_some]

/-- An attempt asks for data centers it was not told to skip. When it lacks capacity, the data
center it lacks it in is one of them, and the others it asked for have an instance. -/
lemma asksFor_unskipped {tried : Layout.TriedByDc}
    (asks : (layout.withDb parts).AsksFor config api.onCluster tried world dcIndex) :
    dcIndex ∉ (layout.withDb parts).completedDbRegionIds world ∧
      dcIndex < world.regions.length ∧
      ∀ exc after, (layout.withDb parts).provisioning world = .error exc after →
        Layout.isCapacityFailure exc = true → exc.failedRegion = world.regions[dcIndex]? ∨
          ∃ launched, Held alive launched after.cloud ∧
            world.regions[dcIndex]? = some launched.region := by
  obtain ⟨request, made, rfl⟩ := asks
  have kept := @dbAttempt_exit _ layout parts config api
    (fun state => state.requests =
      (exitState ((layout.withDb parts).provisioning world)).cloud.requests) tried world
    (fun region _ => undisturbed_requests parts api region _) rfl
  rw [kept] at made
  have ended := provisioning_ended laws layout world
  cases ran : (layout.withDb parts).provisioning world with
  | ok value after =>
    rw [ran] at ended made
    obtain ⟨asked, recorded, served⟩ := ended.2.made
    rw [exitState, recorded, drop_left] at made
    obtain ⟨unskipped, within, answered⟩ := served request made
    exact ⟨unskipped, within, fun _ _ raised => nomatch raised⟩
  | error exc after =>
    rw [ran] at ended made
    obtain ⟨failing, inside, blamed, provisioned⟩ := ended.2
    obtain ⟨asked, recorded, served⟩ := provisioned.made
    rw [exitState, recorded, drop_left] at made
    obtain ⟨unskipped, within, answered⟩ := served request made
    refine ⟨unskipped, within, fun raised reached same lacking => ?_⟩
    cases same
    rw [regions_eq_some within]
    rcases answered with own | found
    · cases own
      exact .inl (blamed lacking)
    · obtain ⟨launched, held, placed⟩ := found
      exact .inr ⟨launched, held, by rw [placed]⟩

/-! ## Whole runs -/

omit laws in
lemma dbAttempt_moves {tried next : Layout.TriedByDc} {world after : World (DbCloud κ)}
    (ran : ((layout.withDb parts).dbAttempt config api.onCluster tried).run world =
      .ok (.inl next) after) :
    ∃ exc failed failedRegion dcIndex target,
      (layout.withDb parts).provisioning world = .error exc failed ∧
        Layout.isCapacityFailure exc = true ∧ exc.failedRegion = some failedRegion ∧
        DcMove parts failedRegion tried next world.settings.placement after.settings.placement
          dcIndex target := by
  rw [Layout.dbAttempt_run] at ran
  cases provisioned : (layout.withDb parts).provisioning world with
  | ok value middle =>
    rw [provisioned] at ran
    exact nomatch ran
  | error exc failed =>
    rw [provisioned] at ran
    simp only at ran
    split at ran
    · rename_i lacking
      obtain ⟨reached, relocated, same⟩ := map_ok_iff.mp ran
      cases same
      obtain ⟨cloud, _, rfl⟩ := query_error provisioned
      have start : (World.withCloud cloud world).settings.placement = world.settings.placement ∧
          (World.withCloud cloud world).cloud.requests = cloud.requests := ⟨rfl, rfl⟩
      obtain ⟨_, failedRegion, dcIndex, target, tagged, move⟩ :=
        (@relocateFailedDbDc_meets _ layout parts config api exc world.settings.placement
          (fun state => state.requests = cloud.requests)
          (fun region _ => undisturbed_requests parts api region _) tried).of_ok start relocated
      exact ⟨exc, _, failedRegion, dcIndex, target, rfl, lacking, tagged, move⟩
    · exact nomatch ran

end Attempt

variable {failedRegion target : String} {before : Placement} {tried next : Layout.TriedByDc}
  {after : Placement} {dcIndex : Nat} {entry world : World (DbCloud κ)} {count : Nat}

lemma laps_distinct {tried last : Layout.TriedByDc}
    (laps : Laps ((layout.withDb parts).dbAttempt config api.onCluster) count tried entry last
      world) (nodup : entry.regions.Nodup) :
    world.regions.Nodup ∧ world.regions.length = entry.regions.length := by
  refine laps.invariant (fun _ world => world.regions.Nodup ∧
    world.regions.length = entry.regions.length) ?_ ⟨nodup, rfl⟩
  intro tried before next after held ran
  obtain ⟨exc, failed, failedRegion, dcIndex, target, _, _, _, move⟩ := dbAttempt_moves ran
  rw [World.regions, move.regions]
  exact ⟨held.1.set move.unused, length_set.trans held.2⟩

def movesLeft (dcCount : Nat) (tried : Layout.TriedByDc) : Nat :=
  ∑ dcIndex ∈ Finset.range dcCount, (awsSupportedRegions.toFinset \ (tried dcIndex).toFinset).card

lemma movesLeft_start (dcCount : Nat) :
    movesLeft dcCount (fun _ => []) ≤ dcCount * awsSupportedRegions.length := by
  have each : ∀ dcIndex ∈ Finset.range dcCount,
      (awsSupportedRegions.toFinset \ ([] : List String).toFinset).card =
        awsSupportedRegions.toFinset.card := by
    intro dcIndex _
    rw [toFinset_nil, Finset.sdiff_empty]
  unfold movesLeft
  rw [Finset.sum_const_nat each, Finset.card_range]
  exact Nat.mul_le_mul_left dcCount (toFinset_card_le _)

lemma DcMove.within (move : DcMove parts failedRegion tried next before after dcIndex target) :
    dcIndex < before.configuredRegions.length :=
  (idxOf?_eq_some_iff.mp move.position).1

lemma DcMove.movesLeft_lt
    (move : DcMove parts failedRegion tried next before after dcIndex target) :
    movesLeft before.configuredRegions.length next <
      movesLeft before.configuredRegions.length tried := by
  have fewer : ∀ other, awsSupportedRegions.toFinset \ (next other).toFinset ⊆
      awsSupportedRegions.toFinset \ (tried other).toFinset := by
    intro other
    apply Finset.sdiff_subset_sdiff (Finset.Subset.refl _)
    intro region member
    rw [mem_toFinset] at member ⊢
    by_cases same : other = dcIndex
    · rw [same] at member ⊢
      exact move.noted region (.inl member)
    · rw [move.others other same]
      exact member
  apply Finset.sum_lt_sum
  · intro other _
    exact Finset.card_le_card (fewer other)
  · refine ⟨dcIndex, Finset.mem_range.mpr move.within, Finset.card_lt_card ⟨fewer dcIndex, ?_⟩⟩
    intro all
    have free : target ∈ awsSupportedRegions.toFinset \ (tried dcIndex).toFinset := by
      rw [Finset.mem_sdiff, mem_toFinset, mem_toFinset]
      exact ⟨move.supported, move.untried⟩
    have used := (Finset.mem_sdiff.mp (all free)).2
    rw [mem_toFinset] at used
    exact used (move.noted target (.inr (.inr rfl)))

lemma laps_le {last : Layout.TriedByDc}
    (laps : Laps ((layout.withDb parts).dbAttempt config api.onCluster) count (fun _ => []) entry
      last world) : count ≤ entry.regions.length * awsSupportedRegions.length := by
  have bound := laps.count_add_le (fun _ world => world.regions.length = entry.regions.length)
    (fun tried _ => movesLeft entry.regions.length tried) (by
      intro tried before next after held ran
      obtain ⟨exc, failed, failedRegion, dcIndex, target, _, _, _, move⟩ := dbAttempt_moves ran
      have shorter := move.movesLeft_lt
      have length : before.settings.placement.configuredRegions.length =
          entry.regions.length := held
      rw [length] at shorter
      have kept : after.regions.length = before.regions.length := by
        unfold World.regions
        rw [move.regions, length_set]
      exact ⟨kept.trans held, shorter⟩) rfl
  have start := movesLeft_start entry.regions.length
  omega

lemma idxOf?_of_nodup {regions : List String} (nodup : regions.Nodup)
    (placed : regions[dcIndex]? = some region) : regions.idxOf? region = some dcIndex := by
  obtain ⟨within, same⟩ := List.getElem?_eq_some_iff.mp placed
  apply idxOf?_eq_some_iff.mpr
  refine ⟨within, same, fun earlier before found => ?_⟩
  have alike : earlier = dcIndex := nodup.getElem_inj_iff.mp (found.trans same.symm)
  omega

lemma completed_of_tracked {world : World (DbCloud κ)} (nodup : world.regions.Nodup)
    (tracked : launched ∈ world.cloud.provisionedInstances)
    (placed : world.regions[dcIndex]? = some launched.region) :
    dcIndex ∈ (layout.withDb parts).completedDbRegionIds world := by
  apply mem_filterMap.mpr
  exact ⟨launched.region, mem_map_of_mem tracked, idxOf?_of_nodup nodup placed⟩

lemma DcMove.placed (move : DcMove parts failedRegion tried next before after dcIndex target) :
    before.configuredRegions[dcIndex]? = some failedRegion := by
  obtain ⟨within, same, _⟩ := idxOf?_eq_some_iff.mp move.position
  exact List.getElem?_eq_some_iff.mpr ⟨within, same⟩

/-- Where a data center was asked for: it has an instance there and is still there, or it left for
good. -/
def AskedIn (alive : κ → DbInstance → Prop) (dcIndex : Nat) (region : String)
    (tried : Layout.TriedByDc) (world : World (DbCloud κ)) : Prop :=
  (∃ launched, Held alive launched world.cloud ∧ launched.region = region ∧
    world.regions[dcIndex]? = some region) ∨
  (region ∈ tried dcIndex ∧ world.regions[dcIndex]? ≠ some region)

lemma DcMove.leaves (move : DcMove parts failedRegion tried next before after dcIndex target)
    (known : region = failedRegion ∨ region ∈ tried dcIndex) :
    region ∈ next dcIndex ∧ after.configuredRegions[dcIndex]? ≠ some region := by
  refine ⟨move.noted region (known.elim (fun same => .inr (.inl same)) .inl), ?_⟩
  rw [move.regions, getElem?_set_self move.within]
  intro same
  have back : target = region := Option.some.inj same
  rcases known with rfl | before
  · apply move.unused
    rw [back]
    exact mem_of_getElem? move.placed
  · apply move.untried
    rw [back]
    exact before

lemma DcMove.stays {dcIndex other : Nat}
    (move : DcMove parts failedRegion tried next before after dcIndex target)
    (differ : other ≠ dcIndex) :
    after.configuredRegions[other]? = before.configuredRegions[other]? := by
  rw [move.regions, getElem?_set_ne (Ne.symm differ)]

section Runs

variable (laws : Ec2Laws parts api alive) {after : World (DbCloud κ)}

include laws

lemma held_of_moved {exc : Exc} {failed : World (DbCloud κ)} {failedRegion : String}
    (ran : ((layout.withDb parts).dbAttempt config api.onCluster tried).run world =
      .ok (.inl next) after)
    (provisioned : (layout.withDb parts).provisioning world = .error exc failed)
    (tagged : exc.failedRegion = some failedRegion) (differ : launched.region ≠ failedRegion)
    (there : Held alive launched world.cloud ∨ Held alive launched failed.cloud) :
    Held alive launched after.cloud := by
  have spared := @dbAttempt_spares _ layout parts config api alive launched laws tried world
  rw [provisioned, ran] at spared
  apply spared there
  intro fails
  obtain ⟨raised, reached, same, _, other⟩ := fails
  rw [provisioned] at same
  cases same
  rw [tagged] at other
  exact differ (Option.some.inj other).symm

lemma askedIn_step (nodup : world.regions.Nodup)
    (asked : AskedIn alive dcIndex region tried world)
    (ran : ((layout.withDb parts).dbAttempt config api.onCluster tried).run world =
      .ok (.inl next) after) : AskedIn alive dcIndex region next after := by
  obtain ⟨exc, failed, failedRegion, moving, target, provisioned, lacking, tagged, move⟩ :=
    dbAttempt_moves ran
  by_cases own : dcIndex = moving
  · subst own
    right
    apply move.leaves
    rcases asked with ⟨launched, held, same, placed⟩ | left
    · exact .inl (Option.some.inj (placed.symm.trans move.placed))
    · exact .inr left.1
  · have stayed : after.regions[dcIndex]? = world.regions[dcIndex]? := move.stays own
    rcases asked with ⟨launched, held, same, placed⟩ | left
    · refine .inl ⟨launched, ?_, same, stayed.trans placed⟩
      apply held_of_moved laws ran provisioned tagged _ (.inl held)
      rw [same]
      intro alike
      rw [alike] at placed
      have position := idxOf?_of_nodup nodup placed
      exact own (Option.some.inj (position.symm.trans move.position))
    · right
      rw [move.others dcIndex own, stayed]
      exact left

lemma askedIn_of_asksFor (nodup : world.regions.Nodup)
    (asks : (layout.withDb parts).AsksFor config api.onCluster tried world dcIndex)
    (placed : world.regions[dcIndex]? = some region)
    (ran : ((layout.withDb parts).dbAttempt config api.onCluster tried).run world =
      .ok (.inl next) after) : AskedIn alive dcIndex region next after := by
  obtain ⟨exc, failed, failedRegion, moving, target, provisioned, lacking, tagged, move⟩ :=
    dbAttempt_moves ran
  by_cases own : region = failedRegion
  · rw [own] at placed
    have position := idxOf?_of_nodup nodup placed
    have same : dcIndex = moving := Option.some.inj (position.symm.trans move.position)
    subst same
    exact .inr (move.leaves (.inl own))
  · have served := (asksFor_unskipped laws asks).2.2 exc failed provisioned lacking
    rw [placed, tagged] at served
    obtain ⟨launched, held, same⟩ :=
      served.resolve_left fun alike => own (Option.some.inj alike).symm
    have there : launched.region = region := (Option.some.inj same).symm
    have other : dcIndex ≠ moving := by
      rintro rfl
      exact own (Option.some.inj (placed.symm.trans move.placed))
    refine .inl ⟨launched, ?_, there, (move.stays other).trans placed⟩
    apply held_of_moved laws ran provisioned tagged _ (.inr held)
    rw [there]
    exact own

lemma asked_once (nodup : world.regions.Nodup)
    (asked : AskedIn alive dcIndex region tried world)
    (asks : (layout.withDb parts).AsksFor config api.onCluster tried world dcIndex) :
    world.regions[dcIndex]? ≠ some region := by
  rcases asked with ⟨launched, held, same, placed⟩ | left
  · rw [← same] at placed
    exact absurd (completed_of_tracked nodup held.1 placed) (asksFor_unskipped laws asks).1
  · exact left.2

end Runs

/-- What the moves of data centers guarantee, from distinct regions on. An attempt is one round of
the loop; those of a run are the ones its laps reach. -/
structure MovesDataCenters (layout : Layout (DbCloud κ)) (config : Config)
    (api : Api (DbCloud κ)) (alive : κ → DbInstance → Prop) (entry : World (DbCloud κ)) : Prop where
  terminates : ∀ fuel, entry.regions.length * awsSupportedRegions.length < fuel → ∀ after,
    (layout.provisionDbWithDcFallback config api fuel).run entry ≠ .ok none after
  distinct : ∀ count tried world,
    Laps (layout.dbAttempt config api) count (fun _ => []) entry tried world →
      world.regions.Nodup ∧ world.regions.length = entry.regions.length
  once : ∀ count tried world next middle later last reached dcIndex,
    Laps (layout.dbAttempt config api) count (fun _ => []) entry tried world →
    (layout.dbAttempt config api tried).run world = .ok (.inl next) middle →
    Laps (layout.dbAttempt config api) later next middle last reached →
    layout.AsksFor config api tried world dcIndex → layout.AsksFor config api last reached dcIndex →
      world.regions[dcIndex]? ≠ reached.regions[dcIndex]?
  spared : ∀ count tried world launched,
    Laps (layout.dbAttempt config api) count (fun _ => []) entry tried world →
    (Held alive launched world.cloud ∨
      Held alive launched (exitState (layout.provisioning world)).cloud) →
    ¬layout.FailsIn world launched.region →
      Held alive launched (exitState ((layout.dbAttempt config api tried).run world)).cloud
  unasked : ∀ count tried world launched dcIndex,
    Laps (layout.dbAttempt config api) count (fun _ => []) entry tried world →
    launched ∈ world.cloud.provisionedInstances →
    world.regions[dcIndex]? = some launched.region → ¬layout.AsksFor config api tried world dcIndex

/-- Every configured letter is one the DB instance type is offered in, in every region. -/
def Zoned (answers : Ec2Answers) (config : ResolverConfig) (world : World (DbCloud κ)) : Prop :=
  ∀ letter ∈ world.settings.placement.configuredAzLetters, ∀ region ∈ world.regions,
    Offers answers config.dbInstanceTypes letter region

lemma DcMove.configuredAzLetters_eq
    (move : DcMove parts failedRegion tried next before after dcIndex target) :
    after.configuredAzLetters = before.configuredAzLetters := by
  unfold Placement.configuredAzLetters
  rw [move.zones]

/-- A move keeps the zones supported exactly when the region it goes to has the configured ones. -/
lemma Zoned.move_iff {answers : Ec2Answers} {resolver : ResolverConfig}
    (zoned : Zoned answers resolver entry) (move : DcMove parts failedRegion tried next
      entry.settings.placement world.settings.placement dcIndex target) :
    Zoned answers resolver world ↔ ∀ letter ∈ entry.settings.placement.configuredAzLetters,
      Offers answers resolver.dbInstanceTypes letter target := by
  unfold Zoned World.regions
  rw [move.configuredAzLetters_eq, move.regions]
  constructor
  · intro all letter listed
    exact all letter listed target (mem_set move.within target)
  · intro offered letter listed region named
    rcases mem_or_eq_of_mem_set named with there | rfl
    · exact zoned letter listed region there
    · exact offered letter listed

/-- Regions that have enough zones have the configured ones. -/
def SameLetters (answers : Ec2Answers) (config : ResolverConfig) (letters : List String) : Prop :=
  ∀ region ∈ awsSupportedRegions, Qualifies answers config letters region →
    ∀ letter ∈ letters, Offers answers config.dbInstanceTypes letter region

/-- The DB instance type stays offered in the configured zones when every region with enough zones
has these. -/
theorem zoned_at_every_attempt (layout : Layout (DbCloud κ)) (parts : DbParts κ) (config : Config)
    (api : Api κ) (answers : Ec2Answers) (entry : World (DbCloud κ))
    (zoned : Zoned answers parts.resolver entry)
    (alike : SameLetters answers parts.resolver entry.settings.placement.configuredAzLetters)
    (count : Nat) (tried : Layout.TriedByDc) (world : World (DbCloud κ))
    (laps : Laps ((layout.withDb { parts with answers := fun _ => answers }).dbAttempt config
      api.onCluster) count (fun _ => []) entry tried world) :
    Zoned answers parts.resolver world := by
  have kept := laps.invariant (fun _ world => Zoned answers parts.resolver world ∧
    world.settings.placement.configuredAzLetters =
      entry.settings.placement.configuredAzLetters) (by
      intro tried before next after held ran
      obtain ⟨exc, failed, failedRegion, dcIndex, target, _, _, _, move⟩ := dbAttempt_moves ran
      refine ⟨(held.1.move_iff move).mpr ?_, move.configuredAzLetters_eq.trans held.2⟩
      obtain ⟨_, qualifies⟩ := move.qualifies
      rw [held.2] at qualifies ⊢
      exact alike target move.supported qualifies) ⟨zoned, rfl⟩
  exact kept.1

/-! ## Two data centers -/

def dbOnly {σ : Type} : Layout σ where
  resolve := pure ()
  getFallbackCandidates := pure []
  getRegionFallbackCandidates := pure []
  getPreferredSpotRegion := pure none
  getDcFallbackCandidates _ := pure []
  runPreFlightCapacityProbe := pure ()
  provisionPlacementGroup := pure ()
  reserveCapacity := pure ()
  reserveHosts := pure ()
  provisionDb _ := pure ()
  provisionMonitors := pure ()
  provisionLoaders := pure ()
  provisionCsDb := pure ()
  cleanupPartialProvision := pure ()
  terminateDcInstances _ := pure ()
  provisionedDbRegions _ := []
  clearClusterCaches := id
  invalidateRegionDerivedCaches := id

/-- All regions offer the DB instance type, `eu-west-2` in the given zones and the others in zone
`a`. -/
def offeredIn (zones : List String) : Ec2Answers where
  offerings region _ := .ok ((if region = "eu-west-2" then zones else ["a"]).map fun letter =>
    ("i4i.large", letter))
  azScores _ _ _ := []
  regionScores _ _ _ := []
  peered _ _ := true

/-- EC2 as the list of its instances, without capacity in `us-east-1`. -/
def eastExhausted (zones : List String) : DbParts (List DbInstance) where
  cluster := { evenCluster with nDbNodes := .perRegion [1, 1], useZeroNodes := false }
  resolver := spotConfig 0
  answers _ := offeredIn zones
  ec2 region _ := [fun request =>
    if region = "us-east-1" then
      throw (.raised (.clientError ["InsufficientInstanceCapacity"]) "no capacity")
    else do
      let launched := request.nodeNames.map (DbInstance.mk region)
      modify fun cloud => cloud ++ launched
      pure launched]
  terminateInstances region _ := modify fun cloud => cloud.filter fun launched =>
    decide (launched.region ≠ region)

def noImages : Api (List DbInstance) where
  getSsmAmi _ _ := throw (.raised (.clientError ["ParameterNotFound"]) "no such parameter")
  getByOwnerAmi _ _ := throw (.raised .valueError "no such image")
  newestImage _ _ _ _ := pure none
  findEquivalentAmi _ _ _ := pure []
  cancelAllRegions _ := pure ()
  terminateStrayInstances _ region := modify fun cloud => cloud.filter fun launched =>
    decide (launched.region ≠ region)
  deleteKmsAlias _ _ := pure ()
  forgetReservations := id

def twoDcWorld : World (DbCloud (List DbInstance)) where
  settings :=
    { placement := ⟨none, some "us-east-1 eu-west-1", some "a"⟩
      amis := fun _ => none
      targetDbImageIds := [] }
  cloud := ⟨[], [], []⟩
  history := []

variable (zones : List String)

lemma eastExhausted_laws :
    Ec2Laws (eastExhausted zones) noImages fun cloud launched => launched ∈ cloud where
  launches region zone step listed request launched := by
    obtain rfl := mem_singleton.mp listed
    split
    · exact keeps_throw _
    · exact keeps_bind (keeps_modify _ fun _ there => mem_append_left _ there) fun _ =>
        keeps_pure _
  started region zone step listed request cloud instances after ran := by
    obtain rfl := mem_singleton.mp listed
    split at ran
    · exact nomatch ran
    · cases ran
      intro launched own
      refine ⟨?_, mem_append_right _ own⟩
      obtain ⟨name, _, rfl⟩ := mem_map.mp own
      rfl
  terminates region instanceIds launched differ :=
    keeps_modify _ fun _ there => mem_filter.mpr ⟨there, decide_eq_true differ⟩
  sweeps testId region launched differ :=
    keeps_modify _ fun _ there => mem_filter.mpr ⟨there, decide_eq_true differ⟩
  cancels _ _ := keeps_pure _
  lookups _ :=
    { ssm := fun _ _ => keeps_throw _
      owner := fun _ _ => keeps_throw _
      named := fun _ _ _ _ => keeps_pure _
      equivalent := fun _ _ _ => keeps_pure _ }

def movedTo (result : EStateM.Result Exc (World (DbCloud (List DbInstance)))
    (Layout.TriedByDc ⊕ Unit)) : Option (List String × List String) :=
  match result with
  | .ok (.inl _) after => some (after.regions, after.settings.placement.configuredAzLetters)
  | _ => none

lemma east_moves
    (moved : movedTo (((dbOnly.withDb (eastExhausted zones)).dbAttempt awsConfig noImages.onCluster
      fun _ => []).run twoDcWorld) = some (["eu-west-2", "eu-west-1"], ["a"])) :
    ∃ tried after, Laps ((dbOnly.withDb (eastExhausted zones)).dbAttempt awsConfig
        noImages.onCluster) 1 (fun _ => []) twoDcWorld tried after ∧
      after.regions = ["eu-west-2", "eu-west-1"] ∧
      after.settings.placement.configuredAzLetters = ["a"] := by
  cases ran : ((dbOnly.withDb (eastExhausted zones)).dbAttempt awsConfig noImages.onCluster
      fun _ => []).run twoDcWorld with
  | error exc after =>
    rw [ran] at moved
    exact nomatch moved
  | ok outcome after =>
    rw [ran] at moved
    cases outcome with
    | inr done => exact nomatch moved
    | inl next =>
      have both := Prod.mk.inj (Option.some.inj moved)
      exact ⟨next, after, .cons ran (.nil next after), both.1, both.2⟩

lemma offers_of_listed {zones : List String} {letter region : String}
    (listed : letter ∈ if region = "eu-west-2" then zones else ["a"]) :
    Offers (offeredIn zones) (spotConfig 0).dbInstanceTypes letter region := by
  refine ⟨_, rfl, fun instanceType own => ?_⟩
  obtain rfl := mem_singleton.mp own
  exact mem_map_of_mem listed

lemma twoDcWorld_zoned : Zoned (offeredIn zones) (spotConfig 0) twoDcWorld := by
  have regions : twoDcWorld.regions = ["us-east-1", "eu-west-1"] := by decide
  intro letter listed region named
  rw [regions] at named
  apply offers_of_listed
  have other : region ≠ "eu-west-2" := by
    rintro rfl
    exact absurd named (by decide)
  rw [if_neg other]
  exact listed

/-- With zone `a` everywhere the zones stay supported. -/
theorem zoned_after_east_moves :
    ∃ tried after, Laps ((dbOnly.withDb (eastExhausted ["a"])).dbAttempt awsConfig
        noImages.onCluster) 1 (fun _ => []) twoDcWorld tried after ∧
      Zoned (offeredIn ["a"]) (spotConfig 0) after := by
  obtain ⟨tried, after, laps, _⟩ := east_moves ["a"] (by decide)
  have letters : twoDcWorld.settings.placement.configuredAzLetters = ["a"] := by decide
  have alike : SameLetters (offeredIn ["a"]) (spotConfig 0)
      twoDcWorld.settings.placement.configuredAzLetters := by
    intro region _ _ letter listed
    apply offers_of_listed
    rw [ite_self]
    exact listed
  exact ⟨tried, after, laps, zoned_at_every_attempt dbOnly (eastExhausted ["a"]) awsConfig noImages
    (offeredIn ["a"]) twoDcWorld (twoDcWorld_zoned ["a"]) alike 1 tried after laps⟩

/-- `eu-west-2` has one zone with the DB instance type, `b`: it qualifies, and the next attempt asks
for zone `a` there. -/
theorem moved_out_of_zone :
    Zoned (offeredIn ["b"]) (spotConfig 0) twoDcWorld ∧
      ∃ tried after, Laps ((dbOnly.withDb (eastExhausted ["b"])).dbAttempt awsConfig
          noImages.onCluster) 1 (fun _ => []) twoDcWorld tried after ∧
        ¬Zoned (offeredIn ["b"]) (spotConfig 0) after := by
  obtain ⟨tried, after, laps, regions, letters⟩ := east_moves ["b"] (by decide)
  refine ⟨twoDcWorld_zoned ["b"], tried, after, laps, fun zoned => ?_⟩
  have asked : "a" ∈ after.settings.placement.configuredAzLetters := by
    rw [letters]
    exact mem_cons_self
  have moved : "eu-west-2" ∈ after.regions := by
    rw [regions]
    exact mem_cons_self
  obtain ⟨listed, answered, all⟩ := zoned "a" asked "eu-west-2" moved
  cases answered
  exact absurd (all "i4i.large" (by decide)) (by decide)

end Sct.Aws
