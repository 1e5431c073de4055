import Mathlib.Data.List.MinMax
import Mathlib.Order.Nat
import Sct.Cluster.AwsNodes
import Sct.Lib.Effect
import Sct.Lib.RoundRobin

/-!
# What `add_nodes` adds to a cluster on AWS

A rack either gets new instances or those of one zone that the tags of the test find, all of
them. `Creates` and `Adopts` say what each of the two does, and `createOrFindInstances_ok` that a
rack is served by one of them: by the second exactly when no node of the cluster is in the rack
and the listed instances have a zone at its place. The zones are those at the start of the call
and those of the instances the call itself has made with their tags.
-/

open Sct.Effect
open List

namespace Sct.AwsNodes

/-! ## Identities -/

namespace ClusterState

variable {state : ClusterState}

lemma lt_freshId_of_mem_keys {id : Nat} (known : id ∈ state.instances.keys) :
    id < state.freshId := by
  have bounded := le_max_of_le
    (mem_append_left (state.nodes.map Node.instanceId) known) (Nat.le_refl id)
  exact Nat.lt_succ_of_le bounded

lemma lt_freshId_of_mem_nodes {node : Node} (known : node ∈ state.nodes) :
    node.instanceId < state.freshId := by
  have bounded := le_max_of_le (mem_append_right state.instances.keys
    (mem_map_of_mem (f := Node.instanceId) known)) (Nat.le_refl node.instanceId)
  exact Nat.lt_succ_of_le bounded

lemma freshId_le_of_mem_freshIds {count id : Nat} (listed : id ∈ state.freshIds count) :
    state.freshId ≤ id := by
  have placed := mem_range'_1.mp listed
  omega

variable (state) (count : Nat)

lemma entries_start (made : Instance) :
    (state.start count made).instances.entries =
      state.instances.entries ++ (state.freshIds count).map fun id => (id, made) := by
  apply Dict.entries_setAll_of_fresh
  · rw [map_map]
    exact (map_id _).symm ▸ nodup_range'
  · intro entry listed known
    obtain ⟨id, fresh, rfl⟩ := mem_map.mp listed
    have above := freshId_le_of_mem_freshIds fresh
    have below := lt_freshId_of_mem_keys known
    omega

lemma listing_start (made : Instance) (region : String) :
    (state.start count made).listing region = state.listing region ++
      if made.region = region ∧ made.listed = true
      then (state.freshIds count).map fun id => (id, made) else [] := by
  rw [listing, entries_start, filter_append]
  congr 1
  split
  · rename_i shown
    apply filter_eq_self.mpr
    intro entry listed
    obtain ⟨id, _, rfl⟩ := mem_map.mp listed
    simp [shown]
  · rename_i hidden
    apply filter_eq_nil_iff.mpr
    intro entry listed
    obtain ⟨id, _, rfl⟩ := mem_map.mp listed
    simpa using hidden

/-- The zone of a known instance. -/
def zoneOf (id : Nat) : Option String := (state.instances.get id).map Instance.zone

variable {state} {id : Nat}

lemma zoneOf_of_mem {made : Instance} (listed : (id, made) ∈ state.instances.entries) :
    state.zoneOf id = some made.zone := by
  rw [zoneOf, (Dict.mem_entries_iff _ _ _).mp listed]
  rfl

lemma mem_keys_iff : id ∈ state.instances.keys ↔ ∃ zone, state.zoneOf id = some zone := by
  change id ∈ state.instances ↔ _
  simp [Dict.mem_iff, zoneOf]

end ClusterState

/-! ## Created instances -/

namespace Settings

variable (settings : Settings)

def subnetZone (dcIdx azIdx : Nat) : String := (settings.rackZone dcIdx azIdx).getD ""

def listedAtOnce (answer : Answer) (count : Nat) : Bool :=
  match settings.instanceProvision with
  | .onDemand => true
  | .spotFleet => decide (count > 1) || decide (answer.spot ≠ .granted)
  | .spot => decide (answer.spot ≠ .granted)

def grownZones (answer : Answer) (count dcIdx azIdx : Nat) : List String :=
  if settings.listedAtOnce answer count then List.replicate count (settings.subnetZone dcIdx azIdx)
  else []

end Settings

/-- What a step leaves alone or only extends. -/
structure Extends (state after : ClusterState) : Prop where
  nodes : after.nodes = state.nodes
  answers : after.answers = state.answers
  zones : ∀ id zone, state.zoneOf id = some zone → after.zoneOf id = some zone

/-- New instances of a batch, in the zone of the rack's subnet. -/
structure Creates (settings : Settings) (count dcIdx azIdx : Nat) (state : ClusterState)
    (ids : List Nat) (after : ClusterState) : Prop where
  extends_ : Extends state after
  length : ids.length = count
  distinct : ids.Nodup
  fresh : ∀ id ∈ ids, id ∉ state.instances.keys
  unused : ∀ id ∈ ids, ∀ node ∈ state.nodes, node.instanceId ≠ id
  subnet : settings.rackZone dcIdx azIdx = some (settings.subnetZone dcIdx azIdx)
  placed : ∀ id ∈ ids, after.zoneOf id = some (settings.subnetZone dcIdx azIdx)
  batches : after.batches = state.batches + 1
  listing : ∃ made, after.listing (settings.region dcIdx) =
      state.listing (settings.region dcIdx) ++ made ∧
    (made.map fun entry => entry.2.zone) =
      settings.grownZones (state.answers state.batches) count dcIdx azIdx ∧
    ∀ entry ∈ made, entry.1 ∈ ids

variable {after state middle : ClusterState}

lemma Extends.trans (first : Extends state middle) (second : Extends middle after) :
    Extends state after :=
  ⟨second.nodes.trans first.nodes, second.answers.trans first.answers,
    fun id zone known => second.zones id zone (first.zones id zone known)⟩

lemma Extends.keys (grown : Extends state after) {id : Nat} (known : id ∈ state.instances.keys) :
    id ∈ after.instances.keys := by
  obtain ⟨zone, placed⟩ := ClusterState.mem_keys_iff.mp known
  exact ClusterState.mem_keys_iff.mpr ⟨zone, grown.zones id zone placed⟩

lemma extends_start (state : ClusterState) (count : Nat) (made : Instance) :
    Extends state (state.start count made) := by
  refine ⟨rfl, rfl, fun id zone known => ?_⟩
  obtain ⟨old, found, rfl⟩ := Option.map_eq_some_iff.mp known
  apply ClusterState.zoneOf_of_mem
  rw [ClusterState.entries_start]
  exact mem_append_left _ ((Dict.mem_entries_iff _ _ _).mpr found)

variable {count azIdx dcIdx : Nat} {settings : Settings}

lemma creates_start (grown : Extends state middle) (batches : middle.batches = state.batches + 1)
    (unlisted : middle.listing (settings.region dcIdx) = state.listing (settings.region dcIdx))
    (subnet : settings.rackZone dcIdx azIdx = some (settings.subnetZone dcIdx azIdx))
    {listed : Bool} (shown : settings.listedAtOnce (state.answers state.batches) count = listed) :
    Creates settings count dcIdx azIdx state (middle.freshIds count) (middle.start count
      ⟨settings.region dcIdx, settings.subnetZone dcIdx azIdx, listed, none⟩) where
  extends_ := grown.trans (extends_start middle count _)
  length := length_range'
  distinct := nodup_range'
  fresh := by
    intro id new old
    have above := ClusterState.freshId_le_of_mem_freshIds new
    have below := ClusterState.lt_freshId_of_mem_keys (grown.keys old)
    omega
  unused := by
    intro id new node old same
    have above := ClusterState.freshId_le_of_mem_freshIds new
    have below := ClusterState.lt_freshId_of_mem_nodes (grown.nodes ▸ old)
    omega
  subnet := subnet
  placed := by
    intro id new
    have entry := mem_append_right middle.instances.entries (mem_map_of_mem (f := fun id =>
      (id, Instance.mk (settings.region dcIdx) (settings.subnetZone dcIdx azIdx) listed none)) new)
    rw [← ClusterState.entries_start] at entry
    exact ClusterState.zoneOf_of_mem entry
  batches := batches
  listing := by
    refine ⟨_, (ClusterState.listing_start middle count _ _).trans (by rw [unlisted]), ?_, ?_⟩
    · rw [Settings.grownZones, shown]
      cases listed <;> simp [ClusterState.freshIds, Function.comp_def]
    · intro entry made
      split at made
      · obtain ⟨id, new, rfl⟩ := mem_map.mp made
        exact new
      · cases made

variable {region zone : String} {ids : List Nat} {answer : Answer}

lemma createOnDemandInstances_ok
    (ran : (createOnDemandInstances answer count region zone).run state = .ok ids after) :
    ids = state.freshIds count ∧ after = state.start count ⟨region, zone, true, none⟩ := by
  unfold createOnDemandInstances at ran
  split at ran
  · cases ran
  · cases ran
    exact ⟨rfl, rfl⟩

def Settings.fleet (settings : Settings) (count : Nat) : Bool :=
  decide (settings.instanceProvision = .spotFleet) && decide (count > 1)

lemma createSpotInstances_run (settings : Settings) (answer : Answer) (count : Nat)
    (region zone : String) (state : ClusterState) :
    (createSpotInstances settings answer count region zone).run state =
      match answer.spot with
      | .granted => .ok (state.freshIds count)
          (state.start count ⟨region, zone, settings.fleet count, none⟩)
      | .refused started exc => .error exc
          (state.start (min started count) ⟨region, zone, settings.fleet count, none⟩) := by
  unfold createSpotInstances
  cases answer.spot with
  | granted => rfl
  | refused started exc => rfl

lemma fallbackProvisionType_ok
    (ran : (fallbackProvisionType settings answer count region zone).run state = .ok ids after) :
    (answer.spot = .granted ∧ ids = state.freshIds count ∧
        after = state.start count ⟨region, zone, settings.fleet count, none⟩) ∨
      ∃ started middle, answer.spot ≠ .granted ∧
        middle = state.start started ⟨region, zone, settings.fleet count, none⟩ ∧
        ids = middle.freshIds count ∧ after = middle.start count ⟨region, zone, true, none⟩ := by
  unfold fallbackProvisionType at ran
  rw [run_tryCatch, createSpotInstances_run] at ran
  cases spot : answer.spot with
  | granted =>
    simp only [spot] at ran
    cases ran
    exact .inl ⟨rfl, rfl, rfl⟩
  | refused started exc =>
    simp only [spot] at ran
    split at ran
    · have launched := createOnDemandInstances_ok ran
      exact .inr ⟨_, _, by simp, rfl, launched⟩
    · cases ran

lemma createInstances_ok (positive : 0 < count)
    (ran : (createInstances settings count dcIdx azIdx).run state = .ok ids after) :
    Creates settings count dcIdx azIdx state ids after := by
  unfold createInstances at ran
  rw [if_neg (Nat.pos_iff_ne_zero.mp positive)] at ran
  split at ran
  case h_2 => cases ran
  case h_1 zone region subnet named =>
  have regionEq : settings.region dcIdx = region := by
    rw [Settings.region, getD_eq_getElem?_getD, named]
    rfl
  have zoneEq : settings.subnetZone dcIdx azIdx = zone := by
    rw [Settings.subnetZone, subnet]
    rfl
  subst regionEq zoneEq
  -- the state in which EC2 answers
  obtain ⟨asked, counted⟩ : ∃ asked, asked = { state with batches := state.batches + 1 } :=
    ⟨_, rfl⟩
  have same : Extends state asked := by
    rw [counted]
    exact ⟨rfl, rfl, fun _ _ known => known⟩
  have batches : asked.batches = state.batches + 1 := by rw [counted]
  have unlisted : asked.listing (settings.region dcIdx) =
      state.listing (settings.region dcIdx) := by rw [counted]; rfl
  change (ite _ _ _ : EStateM Exc ClusterState (List Nat)).run _ = _ at ran
  rw [← counted] at ran
  split at ran
  · rename_i onDemand
    obtain ⟨rfl, rfl⟩ := createOnDemandInstances_ok ran
    apply creates_start same batches unlisted subnet
    simp [Settings.listedAtOnce, onDemand]
  · rename_i notOnDemand
    split at ran
    · rename_i fleet
      rw [createSpotInstances_run] at ran
      have flag : settings.fleet count = true := by simp [Settings.fleet, fleet]
      split at ran
      · cases ran
        apply creates_start same batches unlisted subnet
        simp [Settings.listedAtOnce, flag, fleet]
      · cases ran
    · rename_i single
      have flag : settings.fleet count = false := by simpa [Settings.fleet] using single
      have shown : settings.listedAtOnce (state.answers state.batches) count =
          decide ((state.answers state.batches).spot ≠ .granted) := by
        unfold Settings.listedAtOnce
        cases provision : settings.instanceProvision with
        | onDemand => exact absurd provision notOnDemand
        | spotFleet =>
          have one : ¬count > 1 := fun many => single ⟨provision, many⟩
          simp [one]
        | spot => rfl
      cases fallbackProvisionType_ok ran with
      | inl granted =>
        obtain ⟨spot, rfl, rfl⟩ := granted
        rw [flag]
        apply creates_start same batches unlisted subnet
        rw [shown, spot]
        rfl
      | inr refused =>
        obtain ⟨started, middle, spot, rfl, rfl, rfl⟩ := refused
        apply creates_start (same.trans (extends_start asked started _)) batches ?_ subnet
        · rw [shown]
          exact decide_eq_true spot
        · rw [ClusterState.listing_start, flag, ← unlisted]
          simp

/-! ## Found instances -/

/-- The zone a rack takes its instances from, when these zones are listed. -/
def lookedUp (settings : Settings) (state : ClusterState) (dcIdx azIdx : Nat)
    (zones : List String) : Option String :=
  if state.occupied settings dcIdx azIdx then none
  else (settings.orderedLetters zones)[azIdx]?

def ClusterState.inZone (state : ClusterState) (region zone : String) : List Nat :=
  ((state.listing region).filter fun entry => decide (entry.2.zone = zone)).map Prod.fst

/-- The instances of one zone, all of them. -/
structure Adopts (settings : Settings) (count dcIdx : Nat) (zone : String) (state : ClusterState)
    (ids : List Nat) (after : ClusterState) : Prop where
  same : after = state
  enough : count ≤ ids.length
  all : ids.Perm (state.inZone (settings.region dcIdx) zone)

lemma inZone_ne_nil (listed : zone ∈ state.zones region) : state.inZone region zone ≠ [] := by
  obtain ⟨entry, present, rfl⟩ := mem_map.mp listed
  apply ne_nil_of_mem (a := entry.1)
  exact mem_map_of_mem (mem_filter.mpr ⟨present, decide_eq_true rfl⟩)

lemma getInstances_ok {found : List Nat}
    (ran : (getInstances settings dcIdx azIdx).run state = .ok found after) :
    after = state ∧
      match (settings.orderedLetters (state.zones (settings.region dcIdx)))[azIdx]? with
      | none => found = []
      | some letter => found.Perm (state.inZone (settings.region dcIdx) letter) := by
  unfold getInstances at ran
  split at ran
  · cases ran
  · split at ran
    · cases ran
    · rename_i region named
      have regionEq : settings.region dcIdx = region := by
        rw [Settings.region, getD_eq_getElem?_getD, named]
        rfl
      subst regionEq
      change (ite _ _ _ : EStateM Exc ClusterState (List Nat)).run state = _ at ran
      split at ran
      · cases ran
      · cases placed : (settings.orderedLetters (state.zones (settings.region dcIdx)))[azIdx]? with
        | none =>
          rw [placed] at ran
          cases ran
          exact ⟨rfl, rfl⟩
        | some letter =>
          rw [placed] at ran
          cases ran
          exact ⟨rfl, (perm_insertionSort _ _).map Prod.fst⟩

lemma createOrFindInstances_ok (positive : 0 < count)
    (ran : (createOrFindInstances settings count dcIdx azIdx).run state = .ok ids after) :
    match lookedUp settings state dcIdx azIdx (state.zones (settings.region dcIdx)) with
    | none => Creates settings count dcIdx azIdx state ids after
    | some zone => Adopts settings count dcIdx zone state ids after := by
  change (ite _ _ _ : EStateM Exc ClusterState (List Nat)).run state = _ at ran
  unfold lookedUp
  split at ran
  · rename_i occupied
    rw [if_pos occupied]
    exact createInstances_ok positive ran
  · rename_i vacant
    rw [if_neg vacant]
    obtain ⟨found, middle, listed, rest⟩ := bind_ok_iff.mp ran
    obtain ⟨rfl, held⟩ := getInstances_ok listed
    split at held
    · subst held
      split at rest
      · split at rest
        · rename_i nothing
          exact absurd nothing (Nat.ne_of_lt positive)
        · cases rest
      · exact createInstances_ok positive rest
    · rename_i letter placed
      have present : found ≠ [] := by
        intro nothing
        have listed : letter ∈ middle.zones (settings.region dcIdx) :=
          of_decide_eq_true (mem_filter.mp (mem_of_getElem? placed)).2
        rw [nothing] at held
        exact inZone_ne_nil listed held.nil_eq.symm
      split at rest
      · split at rest
        · rename_i equal
          cases rest
          exact ⟨rfl, Nat.le_of_eq equal.symm, held⟩
        · cases rest
      · rw [if_neg (by simpa using present)] at rest
        split at rest
        · cases rest
        · rename_i enough
          cases rest
          exact ⟨rfl, Nat.le_of_not_lt enough, held⟩

lemma zoneOf_of_mem_inZone {id : Nat} (held : id ∈ state.inZone region zone) :
    state.zoneOf id = some zone := by
  obtain ⟨entry, found, rfl⟩ := mem_map.mp held
  obtain ⟨listed, here⟩ := mem_filter.mp found
  rw [← of_decide_eq_true here]
  exact ClusterState.zoneOf_of_mem (mem_filter.mp listed).1

lemma length_inZone (state : ClusterState) (region zone : String) :
    (state.inZone region zone).length = (state.zones region).count zone := by
  rw [ClusterState.inZone, ClusterState.zones, length_map, List.count, countP_map,
    countP_eq_length_filter]
  rfl

lemma lookedUp_congr {state other : ClusterState} (same : state.nodes = other.nodes)
    (dcIdx azIdx : Nat) (zones : List String) :
    lookedUp settings state dcIdx azIdx zones = lookedUp settings other dcIdx azIdx zones := by
  have known : state.occupied settings dcIdx azIdx = other.occupied settings dcIdx azIdx := by
    rw [ClusterState.occupied, ClusterState.occupied, same]
  rw [lookedUp, lookedUp, known]

/-! ## In the middle of a call -/

/-- The state after some racks: `grown` are the zones of the tagged instances made for them. -/
structure Midway (settings : Settings) (before : ClusterState) (dcIdx batch : Nat)
    (grown : List String) (state : ClusterState) : Prop where
  extends_ : Extends before state
  batches : state.batches = batch
  zones : state.zones (settings.region dcIdx) = before.zones (settings.region dcIdx) ++ grown

variable {before : ClusterState} {batch : Nat} {grown : List String}

lemma Midway.start (settings : Settings) (before : ClusterState) (dcIdx : Nat) :
    Midway settings before dcIdx before.batches [] before :=
  ⟨⟨rfl, rfl, fun _ _ known => known⟩, rfl, (append_nil _).symm⟩

lemma Midway.creates (midway : Midway settings before dcIdx batch grown state)
    (created : Creates settings count dcIdx azIdx state ids after) :
    Midway settings before dcIdx (batch + 1)
      (grown ++ settings.grownZones (before.answers batch) count dcIdx azIdx) after where
  extends_ := midway.extends_.trans created.extends_
  batches := by rw [created.batches, midway.batches]
  zones := by
    obtain ⟨made, listed, placed, _⟩ := created.listing
    have answered : state.answers state.batches = before.answers batch := by
      rw [midway.extends_.answers, midway.batches]
    rw [answered] at placed
    rw [ClusterState.zones, listed, map_append, placed, ← append_assoc, ← midway.zones]
    rfl

lemma Midway.served (midway : Midway settings before dcIdx batch grown state)
    (positive : 0 < count)
    (ran : (createOrFindInstances settings count dcIdx azIdx).run state = .ok ids after) :
    match lookedUp settings before dcIdx azIdx (before.zones (settings.region dcIdx) ++ grown) with
    | none => Creates settings count dcIdx azIdx state ids after
    | some zone => Adopts settings count dcIdx zone state ids after := by
  rw [← midway.zones, ← lookedUp_congr midway.extends_.nodes]
  exact createOrFindInstances_ok positive ran

variable {gathered : List Nat}

lemma gatherInstances_cons_ok {rest : List (Nat × Nat)}
    (ran : (gatherInstances settings dcIdx ((azIdx, count) :: rest)).run state = .ok gathered after) :
    ∃ ids middle more, (createOrFindInstances settings count dcIdx azIdx).run state =
        .ok ids middle ∧
      (gatherInstances settings dcIdx rest).run middle = .ok more after ∧
      gathered = ids ++ more := by
  obtain ⟨ids, middle, first, later⟩ := bind_ok_iff.mp ran
  obtain ⟨more, last, others, ended⟩ := bind_ok_iff.mp later
  cases ended
  exact ⟨ids, middle, more, first, others, rfl⟩

lemma gatherInstances_extends {demands : List (Nat × Nat)}
    (positive : ∀ demand ∈ demands, 0 < demand.2)
    (ran : (gatherInstances settings dcIdx demands).run state = .ok gathered after) :
    Extends state after := by
  induction demands generalizing state gathered with
  | nil =>
    cases ran
    exact ⟨rfl, rfl, fun _ _ known => known⟩
  | cons demand rest ih =>
    obtain ⟨ids, middle, more, first, others, rfl⟩ := gatherInstances_cons_ok ran
    have own : Extends state middle := by
      have served := createOrFindInstances_ok (positive _ mem_cons_self) first
      split at served
      · exact served.extends_
      · rw [served.same]
        exact ⟨rfl, rfl, fun _ _ known => known⟩
    exact own.trans (ih (fun other listed => positive other (mem_cons_of_mem _ listed)) others)

variable {rack : Option Nat}

lemma rackDemands_positive : ∀ demand ∈ settings.rackDemands count rack, 0 < demand.2 := by
  intro demand asked
  obtain ⟨entry, _, chosen⟩ := mem_filterMap.mp asked
  split at chosen
  · cases chosen
  · rename_i some
    cases chosen
    exact Nat.pos_of_ne_zero some

lemma zoneOf_join (state : ClusterState) (made : List Node) (id : Nat) :
    (state.join settings made).zoneOf id = state.zoneOf id := by
  have each (instances : Dict Nat Instance) :
      ((made.foldl tagInstance instances).get id).map Instance.zone =
        (instances.get id).map Instance.zone := by
    induction made generalizing instances with
    | nil => rfl
    | cons node rest ih =>
      rw [foldl_cons, ih, tagInstance]
      split
      · rfl
      · rename_i found
        rw [Dict.get_set]
        split
        · rename_i same
          rw [same, found]
          rfl
        · rfl
  unfold ClusterState.zoneOf ClusterState.join
  dsimp only
  split
  · rfl
  · exact each state.instances

lemma addNodes_ok (positive : 0 < count) {nodes : List Node}
    (returned : (addNodes settings count dcIdx rack).run before = .ok nodes after) :
    ∃ gathered state, (gatherInstances settings (settings.instanceDc dcIdx)
        (settings.rackDemands count rack)).run before = .ok gathered state ∧
      (∀ id, after.zoneOf id = state.zoneOf id) ∧
      after.nodes = before.nodes ++ makeNodes settings state.nodeIndex dcIdx rack gathered ∧
      nodes = after.nodes.drop (after.nodes.length - count) := by
  unfold addNodes at returned
  rw [if_neg (Nat.pos_iff_ne_zero.mp positive)] at returned
  obtain ⟨gathered, state, ran, rest⟩ := bind_ok_iff.mp returned
  have kept := (gatherInstances_extends rackDemands_positive ran).nodes
  cases rest
  refine ⟨gathered, state, ran, zoneOf_join state _, ?_, rfl⟩
  rw [← kept]
  rfl

/-! ## The shares of the racks -/

lemma demands_of_shares (shares : Nat → Nat) (racks : Nat) :
    (((List.range racks).map shares).zipIdx.filterMap fun demand =>
        if demand.1 = 0 then none else some (demand.2, demand.1)) =
      ((List.range racks).filter fun i => decide (shares i ≠ 0)).map fun i => (i, shares i) := by
  induction racks with
  | zero => rfl
  | succ racks ih =>
    rw [range_succ, map_append, zipIdx_append, filterMap_append, ih,
      filter_append, map_append]
    by_cases idle : shares racks = 0 <;> simp [idle]

lemma filter_range_lt (bound total : Nat) :
    ((List.range total).filter fun i => decide (i < bound)) = List.range (min bound total) := by
  induction total with
  | zero => simp
  | succ total ih =>
    rw [range_succ, filter_append, ih]
    by_cases inside : total < bound
    · have full : min bound (total + 1) = total + 1 := by omega
      have before : min bound total = total := by omega
      rw [full, before, range_succ]
      simp [inside]
    · have cut : min bound (total + 1) = min bound total := by omega
      rw [cut]
      simp [inside]

lemma rackDemands_none (spread : settings.instanceAz rack = none) (count : Nat) :
    settings.rackDemands count rack = (List.range (min count settings.racksCount)).map fun i =>
      (i, RoundRobin.share count settings.racksCount i) := by
  have shares : (fun i => if i < count % settings.racksCount then count / settings.racksCount + 1
      else count / settings.racksCount) = RoundRobin.share count settings.racksCount := by
    funext i
    unfold RoundRobin.share
    split <;> rfl
  rw [Settings.rackDemands, Settings.rackDistribution, spread]
  rw [shares, demands_of_shares, ← filter_range_lt]
  congr 1
  apply filter_congr
  intro i listed
  exact decide_eq_decide.mpr (RoundRobin.share_ne_zero_iff (mem_range.mp listed))

lemma rackDemands_some (given : settings.instanceAz rack = some azIdx) (positive : 0 < count) :
    settings.rackDemands count rack =
      if azIdx < settings.racksCount then [(azIdx, count)] else [] := by
  rw [Settings.rackDemands, Settings.rackDistribution, given]
  rw [demands_of_shares]
  have only : ((List.range settings.racksCount).filter fun i =>
      decide ((if i = azIdx then count else 0) ≠ 0)) =
      List.replicate ((List.range settings.racksCount).count azIdx) azIdx := by
    rw [← filter_eq]
    apply filter_congr
    intro i _
    by_cases mine : i = azIdx
    · simp [mine, Nat.pos_iff_ne_zero.mp positive]
    · simp [mine]
  rw [only]
  split
  · rename_i valid
    rw [count_eq_one_of_mem nodup_range (mem_range.mpr valid)]
    simp
  · rename_i beyond
    rw [count_eq_zero_of_not_mem (fun listed => beyond (mem_range.mp listed))]
    rfl

lemma racksCount_pos (settings : Settings) : 0 < settings.racksCount := by
  unfold Settings.racksCount
  split
  · rename_i simulated
    exact Nat.pos_of_ne_zero simulated
  · split
    · exact Nat.zero_lt_one
    · exact length_pos_of_ne_nil (splitOn_ne_nil _ _)

/-! ## A small cluster -/

def twoZones : Settings where
  testId := "0a1b"
  regionNames := ["eu-west-1"]
  availabilityZone := "a,b"
  subnetZones := [["a", "b"]]
  simulatedRacks := 0
  simulatedRegions := false
  reuseCluster := false
  instanceProvision := .onDemand
  fallbackOnDemand := false

def nothingYet : ClusterState where
  instances := .empty
  nodes := []
  nodeIndex := 0
  batches := 0
  answers := fun _ => ⟨.granted, none⟩
  unreachable := []

end Sct.AwsNodes
