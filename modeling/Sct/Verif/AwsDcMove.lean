import Sct.Provision.Aws.DbLayout
import Sct.Verif.AwsAzResolver
import Sct.Verif.AwsImageRuns

/-!
# One move of a data center on AWS

The two halves of an attempt. A provisioning keeps the instances there were; when it lacks capacity
in a data center, each other one it asked for has an instance. A move takes the data center of the
failed region to a region that no data center is in, that it was not in before and that has enough
zones; it disturbs nothing outside the failed region.
-/

open Sct.Effect Sct.Fallible
open List

namespace Sct.Aws

/-! ## The regions a data center may move to -/

/-- A region has as many zones with the DB instance type as there are letters. -/
def Qualifies (answers : Ec2Answers) (config : ResolverConfig) (letters : List String)
    (region : String) : Prop :=
  ∃ supported, commonSupportedLetters answers [region] letters config.dbInstanceTypes =
      .ok supported ∧ letters.length ≤ supported.length ∧ 0 < supported.length

variable {answers : Ec2Answers} {region : String}

lemma mem_rankRegions {instanceTypes regions : List String} {capacity : Nat} :
    region ∈ rankRegions answers instanceTypes capacity regions ↔ region ∈ regions := by
  simp only [rankRegions]
  split
  · rfl
  · simp only [mem_append, mem_bestFirst, mem_filter]
    rw [← and_or_left, and_iff_left]
    cases ((answers.regionScores instanceTypes capacity regions).reverse.find? fun item =>
      decide (item.1 = region)).map Prod.snd with
    | none => exact .inr rfl
    | some score => exact .inl rfl

variable {config : ResolverConfig}

lemma mem_orderedFallbackRegions {exclude : List String}
    (listed : region ∈ orderedFallbackRegions answers config exclude) :
    region ∈ awsSupportedRegions ∧ region ∉ exclude := by
  have unused : ∀ region ∈ awsSupportedRegions.filter fun region => decide (region ∉ exclude),
      region ∈ awsSupportedRegions ∧ region ∉ exclude := by
    intro other member
    rw [mem_filter, decide_eq_true_eq] at member
    exact member
  simp only [orderedFallbackRegions] at listed
  split at listed
  · exact unused region listed
  · split at listed
    · exact unused region listed
    · exact unused region (mem_rankRegions.mp listed)

variable {candidates : List Candidate}

lemma qualifyRegions_ok {stayingRegions letters regions : List String}
    (ran : qualifyRegions answers config stayingRegions letters regions = .ok candidates) :
    ∀ candidate ∈ candidates, candidate.1 ∈ regions ∧
      Qualifies answers config letters candidate.1 := by
  induction regions generalizing candidates with
  | nil =>
    cases ran
    exact fun _ listed => nomatch listed
  | cons region rest ih =>
    intro candidate listed
    rw [qualifyRegions] at ran
    split at ran
    · have found := ih ran candidate listed
      exact ⟨mem_cons_of_mem region found.1, found.2⟩
    · obtain ⟨supported, offered, later⟩ := bind_eq_ok_iff.mp ran
      obtain ⟨others, qualified, ended⟩ := bind_eq_ok_iff.mp later
      have behind : ∀ other ∈ others, other.1 ∈ region :: rest ∧
          Qualifies answers config letters other.1 := by
        intro other member
        have found := ih qualified other member
        exact ⟨mem_cons_of_mem region found.1, found.2⟩
      cases ended
      by_cases few : supported.length < (if letters.isEmpty then 1 else letters.length)
      · rw [if_pos few] at listed
        exact behind candidate listed
      · rw [if_neg few] at listed
        rcases mem_cons.mp listed with rfl | member
        · refine ⟨mem_cons_self, supported, offered, ?_⟩
          cases letters with
          | nil =>
            simp only [isEmpty_nil, if_true] at few
            simp only [length_nil]
            omega
          | cons letter others =>
            simp only [isEmpty_cons, Bool.false_eq_true, if_false] at few
            simp only [length_cons] at few ⊢
            omega
        · exact behind candidate member

lemma getDcFallbackCandidates_ok {placement : Placement} {dcIndex : Nat}
    (named : placement.configuredRegions ≠ [])
    (ran : getDcFallbackCandidates answers config placement dcIndex = .ok candidates) :
    ∀ candidate ∈ candidates, candidate.1 ∈ awsSupportedRegions ∧
      candidate.1 ∉ placement.configuredRegions ∧
      Qualifies answers config placement.configuredAzLetters candidate.1 := by
  have names : placement.regionNames = placement.configuredRegions := by
    unfold Placement.regionNames
    rw [if_neg]
    rwa [List.isEmpty_iff]
  simp only [getDcFallbackCandidates] at ran
  split at ran
  · cases ran
    exact fun _ listed => nomatch listed
  · intro candidate listed
    have found := qualifyRegions_ok ran candidate listed
    have ordered := mem_orderedFallbackRegions found.1
    rw [names] at ordered
    exact ⟨ordered.1, ordered.2, found.2⟩

/-! ## A switch of one data center -/

section Switch

variable {σ : Type} {holds : σ → Prop} {config : Config} {api : Api σ}

/-- A world at a placement, with a property of its cloud. -/
abbrev At (placement : Placement) (holds : σ → Prop) (world : World σ) : Prop :=
  world.settings.placement = placement ∧ holds world.cloud

/-- A placement with one data center in another region. -/
abbrev dcMovedTo (placement : Placement) (dcIndex : Nat) (region : String) : Placement :=
  placement.withRegions (placement.configuredRegions.set dcIndex region)

/-- The lookups of images keep a property of the cloud. -/
structure LookupsKeep (api : Api σ) (holds : σ → Prop) : Prop where
  ssm : ∀ name region, Keeps holds (api.getSsmAmi name region)
  owner : ∀ name region, Keeps holds (api.getByOwnerAmi name region)
  named : ∀ account nameFilter name region,
    Keeps holds (api.newestImage account nameFilter name region)
  equivalent : ∀ amiId sourceRegion region,
    Keeps holds (api.findEquivalentAmi amiId sourceRegion region)

namespace LookupsKeep

variable (lookups : LookupsKeep api holds)

include lookups

lemma namedImage (name region : String) : Keeps holds (namedImage api name region) := by
  have account (account : ImageAccount) : Keeps holds (accountImage api account name region) := by
    apply keeps_bind (lookups.named account .tagName name region)
    intro tagged
    cases tagged with
    | some image => exact keeps_pure _
    | none => exact lookups.named account .name name region
  apply keeps_bind (account .own)
  intro own
  apply keeps_bind (account .scyllaImages)
  intro shared
  exact keeps_pure _

lemma convertName (amiIdParam : String) (regionNames : List String) :
    Keeps holds (convertNameToAmiIfNeeded api amiIdParam regionNames) := by
  unfold convertNameToAmiIfNeeded
  split
  · split
    · exact keeps_map _ (keeps_mapM _ fun region => lookups.ssm _ region)
    · split
      · exact keeps_map _ (keeps_mapM _ fun region => lookups.owner _ region)
      · split
        · exact keeps_pure _
        · apply keeps_bind (keeps_mapM _ fun region => lookups.namedImage _ region)
          intro images
          split
          · exact keeps_pure _
          · exact keeps_throw _
  · exact keeps_pure _

lemma equivalentAmi (key sourceRegion region amiId : String) :
    Keeps holds (equivalentAmi api key sourceRegion region amiId) := by
  apply keeps_bind (lookups.equivalent amiId sourceRegion region)
  intro images
  cases images with
  | nil => exact keeps_throw _
  | cons first others => exact keeps_pure _

lemma resolveRelocatedAmi (key : AmiParam) (currentAmi : String) (dcIndex regionCount : Nat)
    (sourceRegion targetRegion : String) :
    Keeps holds (resolveRelocatedAmi config api key currentAmi dcIndex regionCount sourceRegion
      targetRegion) := by
  unfold Aws.resolveRelocatedAmi
  split
  · split
    · exact lookups.equivalentAmi _ _ _ _
    · have converted (name : String) (other : Exc) : Keeps holds (tryCatch
          (convertNameToAmiIfNeeded api name [targetRegion]) fun exc =>
            if exc.cls = .valueError then throw other else throw exc) := by
        apply keeps_tryCatch (lookups.convertName name [targetRegion])
        intro exc
        split
        · exact keeps_throw _
        · exact keeps_throw _
      apply keeps_bind (converted _ _)
      intro resolved
      split
      · exact keeps_throw _
      · split
        · exact keeps_pure _
        · exact keeps_throw _
  · exact lookups.equivalentAmi _ _ _ _

lemma switchDcRegion_meets {placement : Placement} {dcIndex : Nat}
    (within : dcIndex < placement.configuredRegions.length) (region sourceRegion : String) :
    Meets (At placement holds) (switchDcRegion config api dcIndex region sourceRegion id)
      (fun _ => At (dcMovedTo placement dcIndex region) holds) fun _ => At placement holds := by
  intro world start
  obtain ⟨rfl, kept⟩ := start
  have step (key : AmiParam) (value : Option String) : Keeps holds (Aws.remapDcAmiValue config api
      dcIndex world.settings.placement.configuredRegions.length sourceRegion region key value) := by
    unfold Aws.remapDcAmiValue
    split
    · exact keeps_pure _
    · simp only
      split
      · exact keeps_throw _
      · split
        · exact keeps_pure _
        · apply keeps_bind (lookups.resolveRelocatedAmi _ _ _ _ _ _)
          intro image
          exact keeps_pure _
  have asked := Table.keeps_assignAll step amiIdParams world.amisAndCloud kept
  rw [switchDcRegion_run within]
  cases ran : (Table.assignAll (Aws.remapDcAmiValue config api dcIndex
      world.settings.placement.configuredRegions.length sourceRegion region)
      amiIdParams).run world.amisAndCloud with
  | error exc part =>
    rw [ran] at asked
    exact ⟨rfl, asked⟩
  | ok value part =>
    rw [ran] at asked
    exact ⟨rfl, asked⟩

end LookupsKeep

end Switch

/-! ## A move of one data center -/

variable {κ : Type} {layout : Layout (DbCloud κ)} {parts : DbParts κ} {config : Config}
  {api : Api κ}

/-- A data center moved out of a region. -/
structure DcMove (parts : DbParts κ) (failedRegion : String) (tried next : Layout.TriedByDc)
    (before after : Placement) (dcIndex : Nat) (target : String) : Prop where
  position : before.configuredRegions.idxOf? failedRegion = some dcIndex
  supported : target ∈ awsSupportedRegions
  unused : target ∉ before.configuredRegions
  untried : target ∉ tried dcIndex
  qualifies : ∃ cloud, Qualifies (parts.answers cloud) parts.resolver before.configuredAzLetters
    target
  regions : after.configuredRegions = before.configuredRegions.set dcIndex target
  zones : after.availabilityZone = before.availabilityZone
  others : ∀ other, other ≠ dcIndex → next other = tried other
  noted : ∀ region, region ∈ tried dcIndex ∨ region = failedRegion ∨ region = target →
    region ∈ next dcIndex

/-- A property of the cluster and EC2 that the cleanup of a region and the lookups of images
keep. -/
structure Undisturbed (parts : DbParts κ) (api : Api κ) (region : String)
    (holds : DbCloud κ → Prop) : Prop where
  terminated : ∀ settings, Keeps holds (parts.terminateDcInstances region settings)
  cancelled : ∀ testId, Keeps holds (api.onCluster.cancelAllRegions testId)
  swept : ∀ testId, Keeps holds (api.onCluster.terminateStrayInstances testId region)
  lookups : LookupsKeep api.onCluster holds

variable {α : Type}

lemma query_meets {σ : Type} {query : Query σ α} {placement : Placement} {holds : σ → Prop}
    {post : α → σ → Prop} {raised : Exc → σ → Prop}
    (meets : ∀ settings, settings.placement = placement →
      Meets holds (query settings) post raised) :
    Meets (At placement holds) query.lift (fun value => At placement (post value))
      fun exc => At placement (raised exc) := by
  refine meets_of (fun world value after start ran => ?_) fun world exc after start ran => ?_
  · obtain ⟨cloud, answered, rfl⟩ := query_ok ran
    exact ⟨start.1, (meets world.settings start.1).of_ok start.2 answered⟩
  · obtain ⟨cloud, answered, rfl⟩ := query_error ran
    exact ⟨start.1, (meets world.settings start.1).of_error start.2 answered⟩

namespace Undisturbed

variable {region : String} {holds : DbCloud κ → Prop}
  (undisturbed : Undisturbed parts api region holds)

include undisturbed

lemma cleanupDcRegion (settings : Settings) :
    Keeps holds ((layout.withDb parts).cleanupDcRegion config api.onCluster region settings) := by
  apply keeps_bind (undisturbed.terminated settings)
  intro _
  show Keeps holds (cleanupAbandonedRegion config api.onCluster region settings)
  unfold cleanupAbandonedRegion
  split
  · exact keeps_pure _
  · rename_i testId _
    apply keeps_bind (keeps_tryCatch (undisturbed.cancelled testId) fun _ => keeps_pure _)
    intro _
    exact keeps_tryCatch (undisturbed.swept testId) fun _ => keeps_pure _

variable {placement : Placement} {dcIndex : Nat}

lemma tryDcCandidate_meets (within : dcIndex < placement.configuredRegions.length)
    (tried : List String) (target : String) :
    Meets (At placement holds)
      ((layout.withDb parts).tryDcCandidate config api.onCluster dcIndex region tried target)
      (fun outcome world => match outcome with
        | .inl next => next = tried ++ [target] ∧ At placement holds world
        | .inr next => next = tried ++ [target] ∧ At (dcMovedTo placement dcIndex target) holds world)
      fun _ world => holds world.cloud := by
  have switched := @LookupsKeep.switchDcRegion_meets _ _ config _ undisturbed.lookups _ _ within
    target region
  apply meets_tryCatch (meets_bind switched fun _ => meets_pure _ fun _ moved => ⟨rfl, moved⟩)
  intro exc
  split
  · exact meets_pure _ fun _ kept => ⟨rfl, kept⟩
  · exact meets_throw _ fun _ kept => kept.2

lemma candidates_meets (within : dcIndex < placement.configuredRegions.length)
    (tried targets : List String) :
    Meets (At placement holds)
      (foldUntil ((layout.withDb parts).tryDcCandidate config api.onCluster dcIndex region) tried
        targets)
      (fun outcome world => holds world.cloud ∧ ∀ next, outcome = .inr next →
        ∃ target ∈ targets, world.settings.placement = dcMovedTo placement dcIndex target ∧
          target ∈ next ∧ ∀ other ∈ tried, other ∈ next)
      fun _ world => holds world.cloud := by
  induction targets generalizing tried with
  | nil =>
    apply meets_pure
    intro world start
    exact ⟨start.2, fun _ ended => nomatch ended⟩
  | cons target rest ih =>
    apply meets_bind (@tryDcCandidate_meets _ layout _ config _ _ _ undisturbed _ _ within tried
      target)
    intro outcome
    cases outcome with
    | inl next =>
      refine (meets_of_fact fun longer => ?_ : Meets (fun world => At placement holds world ∧
        next = tried ++ [target]) _ _ _).given fun _ kept => ⟨kept.2, kept.1⟩
      refine (ih next).weaken (fun _ kept => kept) (fun last world kept => ?_) fun _ _ kept => kept
      refine ⟨kept.1, fun reached same => ?_⟩
      obtain ⟨found, listed, moved, noted, earlier⟩ := kept.2 reached same
      refine ⟨found, mem_cons_of_mem target listed, moved, noted, fun other member => ?_⟩
      apply earlier
      rw [longer]
      exact mem_append_left _ member
    | inr next =>
      apply meets_pure
      intro world reached
      obtain ⟨rfl, moved, kept⟩ := reached
      refine ⟨kept, fun last same => ?_⟩
      cases same
      refine ⟨target, mem_cons_self, moved, ?_, fun other member => ?_⟩
      · exact mem_append_right _ mem_cons_self
      · exact mem_append_left _ member

end Undisturbed

lemma dcFallbackCandidates_meets (parts : DbParts κ) {placement : Placement}
    (named : placement.configuredRegions ≠ []) (dcIndex : Nat) (holds : DbCloud κ → Prop)
    (settings : Settings) (same : settings.placement = placement) :
    Meets holds (parts.dcFallbackCandidates dcIndex settings)
      (fun candidates state => holds state ∧ ∀ candidate ∈ candidates,
        candidate.1 ∈ awsSupportedRegions ∧ candidate.1 ∉ placement.configuredRegions ∧
          ∃ cloud, Qualifies (parts.answers cloud) parts.resolver placement.configuredAzLetters
            candidate.1)
      fun _ => holds := by
  subst same
  apply meets_bind keeps_get
  intro state
  cases answered : getDcFallbackCandidates (parts.answers state.cloud) parts.resolver
      settings.placement dcIndex with
  | error exc => exact meets_throw _ fun _ kept => kept
  | ok candidates =>
    apply meets_pure
    intro after kept
    refine ⟨kept, fun candidate listed => ?_⟩
    have found := getDcFallbackCandidates_ok named answered candidate listed
    exact ⟨found.1, found.2.1, state.cloud, found.2.2⟩

variable {exc : Exc}

/-- A failure that is not of a configured region is raised again; otherwise the data center of the
region moves, or the run raises. -/
lemma relocateFailedDbDc_meets {placement : Placement} {holds : DbCloud κ → Prop}
    (undisturbed : ∀ region, exc.failedRegion = some region → Undisturbed parts api region holds)
    (tried : Layout.TriedByDc) :
    Meets (At placement holds) ((layout.withDb parts).relocateFailedDbDc config api.onCluster exc tried)
      (fun next world => holds world.cloud ∧ ∃ failedRegion dcIndex target,
        exc.failedRegion = some failedRegion ∧
          DcMove parts failedRegion tried next placement world.settings.placement dcIndex target)
      fun _ world => holds world.cloud := by
  have opened : Meets (At placement holds) get
      (fun got world => got.settings.placement = placement ∧ At placement holds world)
      fun (_ : Exc) world => holds world.cloud := meets_get fun _ start => ⟨start.1, start⟩
  apply meets_bind opened
  intro got
  split
  · exact meets_throw _ fun _ start => start.2.2
  · rename_i failedRegion dcIndex found
    have located : exc.failedRegion = some failedRegion ∧
        got.settings.placement.configuredRegions.idxOf? failedRegion = some dcIndex := by
      obtain ⟨region, tagged, indexed⟩ := Option.bind_eq_some_iff.mp found
      obtain ⟨index, position, same⟩ := Option.map_eq_some_iff.mp indexed
      obtain ⟨rfl, rfl⟩ := Prod.mk.inj same
      exact ⟨tagged, position⟩
    have within := (idxOf?_eq_some_iff.mp located.2).1
    have calm := undisturbed failedRegion located.1
    intro world start
    obtain ⟨rfl, start⟩ := start
    refine (?_ : Meets (At got.settings.placement holds) _ _ _) world start
    have cleaned := @query_meets _ _ _ got.settings.placement _ _ _ fun settings _ =>
      @calm.cleanupDcRegion _ layout _ config _ _ _ settings
    apply meets_bind (cleaned.raising fun _ _ kept => kept.2)
    intro _
    have nonempty := ne_nil_of_length_pos (Nat.zero_lt_of_lt within)
    have listed := query_meets (dcFallbackCandidates_meets parts nonempty dcIndex holds)
    apply meets_bind (listed.raising fun _ _ kept => kept.2)
    intro candidates
    have tries := @calm.candidates_meets _ layout _ config _ _ _ _ _ within
      (tried dcIndex ++ [failedRegion]) ((candidates.map Prod.fst).filter fun region =>
        region ∉ tried dcIndex ++ [failedRegion])
    refine (meets_of_fact fun known => ?_ : Meets (fun world => At got.settings.placement holds
      world ∧ _) _ _ _).given fun _ kept => ⟨⟨kept.1, kept.2.1⟩, kept.2.2⟩
    apply meets_bind tries
    intro outcome
    cases outcome with
    | inl reached => exact meets_throw _ fun _ kept => kept.1
    | inr reached =>
      apply meets_pure
      intro after kept
      obtain ⟨target, listed, moved, noted, earlier⟩ := kept.2 reached rfl
      refine ⟨kept.1, failedRegion, dcIndex, target, located.1, ?_⟩
      have chosen := mem_filter.mp listed
      have fresh : target ∉ tried dcIndex ++ [failedRegion] := of_decide_eq_true chosen.2
      obtain ⟨candidate, own, rfl⟩ := mem_map.mp chosen.1
      have candidateFacts := known candidate own
      have words : ∀ name ∈ got.settings.placement.configuredRegions.set dcIndex candidate.1,
          IsWord name := by
        intro name member
        rcases mem_or_eq_of_mem_set member with member | rfl
        · exact Placement.isWord_of_mem_configuredRegions member
        · have all : ∀ name ∈ awsSupportedRegions, IsWord name := by decide
          exact all _ candidateFacts.1
      exact
        { position := located.2
          supported := candidateFacts.1
          unused := candidateFacts.2.1
          untried := fun member => fresh (mem_append_left _ member)
          qualifies := candidateFacts.2.2
          regions := by rw [moved, Placement.withRegions_configuredRegions words]
          zones := by rw [moved]; rfl
          others := fun other differ => Function.update_of_ne differ _ _
          noted := by
            intro region known
            rw [Function.update_self]
            rcases known with member | rfl | rfl
            · exact earlier region (mem_append_left _ member)
            · exact earlier region (mem_append_right _ mem_cons_self)
            · exact noted }

/-! ## Launched instances -/

/-- What EC2 does to instances. An instance is alive until it is terminated; which are is up to
EC2. -/
structure Ec2Laws (parts : DbParts κ) (api : Api κ) (alive : κ → DbInstance → Prop) : Prop where
  launches : ∀ region zone, ∀ step ∈ parts.ec2 region zone, ∀ request launched,
    Keeps (fun cloud => alive cloud launched) (step request)
  started : ∀ region zone, ∀ step ∈ parts.ec2 region zone, ∀ request cloud instances after,
    (step request).run cloud = .ok instances after →
      ∀ launched ∈ instances, launched.region = region ∧ alive after launched
  terminates : ∀ region instanceIds launched, launched.region ≠ region →
    Keeps (fun cloud => alive cloud launched) (parts.terminateInstances region instanceIds)
  sweeps : ∀ testId region launched, launched.region ≠ region →
    Keeps (fun cloud => alive cloud launched) (api.terminateStrayInstances testId region)
  cancels : ∀ testId launched,
    Keeps (fun cloud => alive cloud launched) (api.cancelAllRegions testId)
  lookups : ∀ launched, LookupsKeep api fun cloud => alive cloud launched

def Held (alive : κ → DbInstance → Prop) (launched : DbInstance) (state : DbCloud κ) : Prop :=
  launched ∈ state.provisionedInstances ∧ alive state.cloud launched

variable {alive : κ → DbInstance → Prop} {launched : DbInstance} {region : String}

lemma keeps_held {body : EStateM Exc κ α}
    (kept : Keeps (fun cloud => alive cloud launched) body) :
    Keeps (Held alive launched) (zoom ClusterState.cloud ClusterState.withCloud body) := by
  have tracked : Keeps (fun state : DbCloud κ => launched ∈ state.provisionedInstances)
      (zoom ClusterState.cloud ClusterState.withCloud body) :=
    keeps_zoom _ _ _ fun _ _ listed => listed
  exact tracked.both (meets_zoom kept _ _ fun _ _ => rfl)

lemma undisturbed_held (laws : Ec2Laws parts api alive) (differ : launched.region ≠ region) :
    Undisturbed parts api region (Held alive launched) where
  terminated settings := by
    apply keeps_bind keeps_get
    intro state
    have dropped : Keeps (Held alive launched) (modify fun state : DbCloud κ =>
        { state with
          provisionedInstances := state.provisionedInstances.filter fun launched =>
            decide (launched.region ≠ region) } : EStateM Exc (DbCloud κ) PUnit) := by
      apply keeps_modify
      intro before held
      exact ⟨mem_filter.mpr ⟨held.1, decide_eq_true differ⟩, held.2⟩
    simp only
    split
    · apply keeps_bind (keeps_tryCatch (keeps_held (laws.terminates region _ launched differ))
        fun _ => keeps_pure _)
      intro _
      exact dropped
    · exact dropped
  cancelled testId := keeps_held (laws.cancels testId launched)
  swept testId := keeps_held (laws.sweeps testId region launched differ)
  lookups :=
    { ssm := fun name region => keeps_held ((laws.lookups launched).ssm name region)
      owner := fun name region => keeps_held ((laws.lookups launched).owner name region)
      named := fun account nameFilter name region =>
        keeps_held ((laws.lookups launched).named account nameFilter name region)
      equivalent := fun amiId sourceRegion region =>
        keeps_held ((laws.lookups launched).equivalent amiId sourceRegion region) }

lemma keeps_requests (made : List Request) (body : EStateM Exc κ α) :
    Keeps (fun state : DbCloud κ => state.requests = made)
      (zoom ClusterState.cloud ClusterState.withCloud body) :=
  keeps_zoom _ _ _ fun _ _ kept => kept

lemma undisturbed_requests (parts : DbParts κ) (api : Api κ) (region : String)
    (made : List Request) :
    Undisturbed parts api region fun state => state.requests = made where
  terminated settings := by
    apply keeps_bind keeps_get
    intro state
    simp only
    split
    · apply keeps_bind (keeps_tryCatch (keeps_requests made _) fun _ => keeps_pure _)
      intro _
      exact keeps_modify _ fun _ kept => kept
    · exact keeps_modify _ fun _ kept => kept
  cancelled _ := keeps_requests made _
  swept _ := keeps_requests made _
  lookups :=
    { ssm := fun _ _ => keeps_requests made _
      owner := fun _ _ => keeps_requests made _
      named := fun _ _ _ _ => keeps_requests made _
      equivalent := fun _ _ _ => keeps_requests made _ }

/-! ## One provisioning of the cluster -/

/-- What a provisioning did so far: it kept the instances there were, and each region it asked for
has an instance now, but for one that may be failing. -/
structure Provisioned (alive : κ → DbInstance → Prop) (cluster : DbCluster)
    (skipRegionIds : List Nat) (start : DbCloud κ) (failing : Option Nat) (state : DbCloud κ) :
    Prop where
  held : ∀ launched, Held alive launched start → Held alive launched state
  made : ∃ made, state.requests = start.requests ++ made ∧ ∀ request ∈ made,
    request.regionId ∉ skipRegionIds ∧ request.regionId < cluster.regionNames.length ∧
      (failing = some request.regionId ∨
        ∃ launched, Held alive launched state ∧ launched.region = cluster.region request.regionId)

/-- How a provisioning fails: a lack of capacity carries the region it is in. -/
def StoppedAt (alive : κ → DbInstance → Prop) (cluster : DbCluster) (skipRegionIds : List Nat)
    (start : DbCloud κ) (exc : Exc) (state : DbCloud κ) : Prop :=
  ∃ dcIndex < cluster.regionNames.length,
    (Layout.isCapacityFailure exc = true → exc.failedRegion = some (cluster.region dcIndex)) ∧
      Provisioned alive cluster skipRegionIds start (some dcIndex) state

abbrev Provisions (alive : κ → DbInstance → Prop) (cluster : DbCluster) (skipRegionIds : List Nat)
    (start : DbCloud κ) {α : Type} (body : EStateM Exc (DbCloud κ) α) : Prop :=
  Meets (Provisioned alive cluster skipRegionIds start none) body
    (fun _ => Provisioned alive cluster skipRegionIds start none)
    (StoppedAt alive cluster skipRegionIds start)

variable {cluster : DbCluster} {skipRegionIds : List Nat} {start : DbCloud κ} {failing : Option Nat}

lemma Provisioned.withCloud {state : DbCloud κ}
    (provisioned : Provisioned alive cluster skipRegionIds start failing state) {cloud : κ}
    (stay : ∀ launched, alive state.cloud launched → alive cloud launched) :
    Provisioned alive cluster skipRegionIds start failing (state.withCloud cloud) := by
  have still : ∀ launched, Held alive launched state →
      Held alive launched (state.withCloud cloud) :=
    fun launched held => ⟨held.1, stay launched held.2⟩
  obtain ⟨made, recorded, served⟩ := provisioned.made
  refine ⟨fun launched held => still launched (provisioned.held launched held), made, recorded, ?_⟩
  intro request asked
  obtain ⟨unskipped, within, answered⟩ := served request asked
  refine ⟨unskipped, within, answered.imp_right fun found => ?_⟩
  obtain ⟨launched, held, same⟩ := found
  exact ⟨launched, still launched held, same⟩

variable {request : Request}

/-- What lived before still lives, and the instances that are returned live in the region. -/
abbrev Launches (alive : κ → DbInstance → Prop) (region : String) (before : κ)
    (body : EStateM Exc κ (List DbInstance)) : Prop :=
  Meets (fun cloud => ∀ launched, alive before launched → alive cloud launched) body
    (fun instances cloud => (∀ launched, alive before launched → alive cloud launched) ∧
      ∀ launched ∈ instances, launched.region = region ∧ alive cloud launched)
    fun _ cloud => ∀ launched, alive before launched → alive cloud launched

lemma provisionInstances_meets {plan : List (ProvisionStep κ DbInstance)}
    (launches : ∀ step ∈ plan, ∀ request launched, Keeps (fun cloud => alive cloud launched) (step
      request))
    (started : ∀ step ∈ plan, ∀ request cloud instances after, (step request).run cloud = .ok
      instances after → ∀ launched ∈ instances, launched.region = region ∧ alive after launched)
    (before : κ) : Launches alive region before (provisionInstances request plan) := by
  induction plan with
  | nil =>
    apply meets_pure
    intro cloud stay
    exact ⟨stay, fun _ listed => nomatch listed⟩
  | cons step rest ih =>
    have first (request : Request) : Launches alive region before (step request) := by
      refine meets_of (fun cloud instances after stay ran => ?_) fun cloud exc after stay ran => ?_
      · refine ⟨fun launched there => ?_, ?_⟩
        · exact (launches step mem_cons_self request launched).of_ok (stay launched there) ran
        · exact started step mem_cons_self request cloud instances after ran
      · intro launched there
        exact (launches step mem_cons_self request launched).of_error (stay launched there) ran
    have checked : Launches alive region before (provisionInstanceStep step request) := by
      unfold provisionInstanceStep
      split
      · exact meets_throw _ fun _ stay => stay
      · split
        · exact meets_throw _ fun _ stay => stay
        · exact first _
    apply meets_bind checked
    intro instances
    split
    · refine (ih (fun other listed => launches other (mem_cons_of_mem _ listed)) fun other
        listed => started other (mem_cons_of_mem _ listed)).given fun _ found => found.1
    · exact meets_pure _ fun _ found => found

lemma launch_meets (laws : Ec2Laws parts api alive) :
    Meets (Provisioned alive cluster skipRegionIds start failing)
      (cluster.launch parts.ec2 request)
      (fun instances state => Provisioned alive cluster skipRegionIds start failing state ∧
        instances ≠ [] ∧ ∀ launched ∈ instances,
          launched.region = cluster.region request.regionId ∧ alive state.cloud launched)
      fun _ => Provisioned alive cluster skipRegionIds start failing := by
  have planned : Meets (Provisioned alive cluster skipRegionIds start failing)
      (zoom ClusterState.cloud ClusterState.withCloud (provisionInstances request
        (parts.ec2 (cluster.region request.regionId) (cluster.azs.getD request.azId ""))))
      (fun instances state => Provisioned alive cluster skipRegionIds start failing state ∧
        ∀ launched ∈ instances,
          launched.region = cluster.region request.regionId ∧ alive state.cloud launched)
      fun _ => Provisioned alive cluster skipRegionIds start failing := by
    refine meets_of (fun state instances after before ran => ?_)
      fun state exc after before ran => ?_
    · obtain ⟨cloud, launchedBy, rfl⟩ := zoom_ok_iff.mp ran
      have found := (provisionInstances_meets (laws.launches _ _) (laws.started _ _)
        state.cloud).of_ok (fun _ there => there) launchedBy
      exact ⟨before.withCloud found.1, found.2⟩
    · obtain ⟨cloud, launchedBy, rfl⟩ := zoom_error_iff.mp ran
      have stay := (provisionInstances_meets (laws.launches _ _) (laws.started _ _)
        state.cloud).of_error (fun _ there => there) launchedBy
      exact before.withCloud stay
  apply meets_bind planned
  intro instances
  split
  · exact meets_throw _ fun _ found => found.1
  · rename_i nonempty
    apply meets_pure
    intro state found
    exact ⟨found.1, fun empty => nonempty (by rw [empty]; rfl), found.2⟩

lemma provisionAzInstances_meets (laws : Ec2Laws parts api alive)
    (unskipped : request.regionId ∉ skipRegionIds)
    (within : request.regionId < cluster.regionNames.length) :
    Provisions alive cluster skipRegionIds start
      (cluster.provisionAzInstances parts.ec2 request) := by
  have recorded : Meets (Provisioned alive cluster skipRegionIds start none)
      (modify fun state => { state with requests := state.requests ++ [request] } :
        EStateM Exc (DbCloud κ) PUnit)
      (fun _ => Provisioned alive cluster skipRegionIds start (some request.regionId))
      (StoppedAt alive cluster skipRegionIds start) := by
    apply meets_modify
    intro state before
    obtain ⟨made, logged, served⟩ := before.made
    refine ⟨before.held, made ++ [request], ?_, fun other asked => ?_⟩
    · rw [logged, append_assoc]
    · rcases mem_append.mp asked with earlier | last
      · obtain ⟨free, inside, answered⟩ := served other earlier
        exact ⟨free, inside, .inr (answered.resolve_left fun same => nomatch same)⟩
      · obtain rfl := mem_singleton.mp last
        exact ⟨unskipped, within, .inl rfl⟩
  apply meets_bind recorded
  intro _
  refine meets_bind (meets_tryCatch (launch_meets laws) fun exc => meets_throw _ ?_) ?_
  · intro state stopped
    refine ⟨request.regionId, within, fun lacking => ?_, stopped⟩
    obtain ⟨cls, message, failedRegion⟩ := exc
    cases cls with
    | clientError codes => rfl
    | provisioningCapacityExhausted => rfl
    | _ => exact nomatch lacking
  intro instances
  apply meets_modify
  intro state found
  obtain ⟨provisioned, nonempty, started⟩ := found
  have still : ∀ launched, Held alive launched state → Held alive launched
      { state with provisionedInstances := state.provisionedInstances ++ instances } :=
    fun launched held => ⟨mem_append_left _ held.1, held.2⟩
  obtain ⟨made, logged, served⟩ := provisioned.made
  refine ⟨fun launched held => still launched (provisioned.held launched held), made, logged, ?_⟩
  intro other asked
  obtain ⟨free, inside, answered⟩ := served other asked
  refine ⟨free, inside, .inr ?_⟩
  rcases answered with same | earlier
  · obtain ⟨launched, first⟩ := exists_mem_of_ne_nil instances nonempty
    have alike : request.regionId = other.regionId := Option.some.inj same
    have there := started launched first
    exact ⟨launched, ⟨mem_append_right _ first, there.2⟩, by rw [there.1, alike]⟩
  · obtain ⟨launched, held, same⟩ := earlier
    exact ⟨launched, still launched held, same⟩

lemma provision_meets (laws : Ec2Laws parts api alive) (cluster : DbCluster)
    (skipRegionIds : List Nat) (start : DbCloud κ) :
    Provisions alive cluster skipRegionIds start (cluster.provision parts.ec2 skipRegionIds) := by
  have batch (request : Request) (unskipped : request.regionId ∉ skipRegionIds)
      (within : request.regionId < cluster.regionNames.length) :
      Provisions alive cluster skipRegionIds start (cluster.provisionBatch parts.ec2 request) := by
    unfold DbCluster.provisionBatch
    split
    · exact provisionAzInstances_meets laws unskipped within
    · exact meets_pure _ fun _ kept => kept
  have regions : Provisions alive cluster skipRegionIds start
      (forM cluster.activeRegionIds fun regionId =>
        if regionId ∉ skipRegionIds then
          forM (List.range cluster.azs.length) (cluster.provisionAz parts.ec2 regionId)
        else pure ()) := by
    apply meets_forM
    intro regionId active
    have within : regionId < cluster.regionNames.length :=
      mem_range.mp (mem_filter.mp active).1
    split
    · rename_i unskipped
      apply meets_forM
      intro azId _
      exact meets_bind (batch _ unskipped within) fun _ => batch _ unskipped within
    · exact meets_pure _ fun _ kept => kept
  unfold DbCluster.provision
  split
  · exact meets_pure _ fun _ kept => kept
  · apply meets_bind regions
    intro _
    exact meets_bind (meets_get fun _ kept => kept) fun _ => meets_pure _ fun _ kept => kept

end Sct.Aws
