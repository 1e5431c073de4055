import Sct.Verif.AwsNodes

/-!
# Racks and zones of new nodes

`add_nodes` takes the instances of a call rack by rack and gives the racks to the nodes by place.
The two orders agree when no rack gets two instances in a row. The instances of a rack are in its
own zone when they are new; those it finds are in the zone that stands at its place among the
zones with instances, which may be another one.
-/

open List

namespace Sct.AwsNodes

/-- The zone a rack takes existing instances from, if it does, is its own. -/
def FindsOwn (settings : Settings) (before : ClusterState) (dcIdx azIdx : Nat) : Prop :=
  ∀ zone, lookedUp settings before dcIdx azIdx (before.zones (settings.region dcIdx)) = some zone →
    settings.rackZone dcIdx azIdx = some zone

/-- Whether every rack that takes instances that exist finds one, in its own zone. The zones grow
with the tagged instances the call makes itself. -/
def LoneFinds (settings : Settings) (before : ClusterState) (dcIdx : Nat) :
    Nat → List String → List (Nat × Nat) → Prop
  | _, _, [] => True
  | batch, grown, (azIdx, count) :: rest =>
    match lookedUp settings before dcIdx azIdx (before.zones (settings.region dcIdx) ++ grown) with
    | none => LoneFinds settings before dcIdx (batch + 1)
        (grown ++ settings.grownZones (before.answers batch) count dcIdx azIdx) rest
    | some zone => settings.rackZone dcIdx azIdx = some zone ∧
        (before.zones (settings.region dcIdx) ++ grown).count zone = 1 ∧
        LoneFinds settings before dcIdx batch grown rest

/-- Zones of instances that go round the racks by place, from a place on. -/
def InTurn (settings : Settings) (dcIdx : Nat) : Nat → List (Option String) → Prop
  | _, [] => True
  | place, zone :: rest => settings.rackZone dcIdx (place % settings.racksCount) = zone ∧
      InTurn settings dcIdx (place + 1) rest

section

variable {settings : Settings} {dcIdx azIdx place : Nat} {zone : String}
  (distinct : ∀ zones ∈ settings.subnetZones, zones.Nodup)
include distinct

lemma eq_of_rackZone_eq (first : settings.rackZone dcIdx azIdx = some zone)
    (second : settings.rackZone dcIdx place = some zone) : azIdx = place := by
  obtain ⟨zones, listed, here⟩ := Option.bind_eq_some_iff.mp first
  obtain ⟨again, also, there⟩ := Option.bind_eq_some_iff.mp second
  obtain rfl := Option.some.inj (listed.symm.trans also)
  have inside : azIdx < zones.length := (List.getElem?_eq_some_iff.mp here).1
  have apart := distinct zones (mem_of_getElem? listed)
  exact (getElem?_inj inside apart).mp (here.trans there.symm)

/-- Instances of one zone in a row are in turn only if there is one. -/
lemma inTurn_block_iff (several : 1 < settings.racksCount) (short : place < settings.racksCount)
    {size : Nat} (positive : 0 < size) (more : List (Option String)) :
    InTurn settings dcIdx place (replicate size (some zone) ++ more) ↔
      size = 1 ∧ settings.rackZone dcIdx place = some zone ∧
        InTurn settings dcIdx (place + 1) more := by
  cases size with
  | zero => exact absurd positive (Nat.lt_irrefl 0)
  | succ size =>
    cases size with
    | zero => simp [InTurn, Nat.mod_eq_of_lt short]
    | succ size =>
      constructor
      · intro turn
        have same := eq_of_rackZone_eq distinct turn.2.1 turn.1
        have gap := Nat.sub_mod_eq_zero_of_mod_eq same
        rw [Nat.add_sub_cancel_left, Nat.mod_eq_of_lt several] at gap
        omega
      · intro one
        omega

variable {demands : List (Nat × Nat)}

lemma gatherInstances_inTurn_iff {before : ClusterState} (several : 1 < settings.racksCount)
    (ordered : demands.map Prod.fst = List.range' place demands.length)
    (short : place + demands.length ≤ settings.racksCount)
    (positive : ∀ demand ∈ demands, 0 < demand.2)
    {batch : Nat} {grown : List String} {state after : ClusterState}
    (midway : Midway settings before dcIdx batch grown state) {gathered : List Nat}
    (ran : (gatherInstances settings dcIdx demands).run state = .ok gathered after) :
    InTurn settings dcIdx place (gathered.map after.zoneOf) ↔
      (∀ demand ∈ demands, demand.2 = 1) ∧ LoneFinds settings before dcIdx batch grown demands := by
  induction demands generalizing place batch grown state gathered with
  | nil =>
    cases ran
    simp [InTurn, LoneFinds]
  | cons demand rest ih =>
    obtain ⟨azIdx, count⟩ := demand
    obtain ⟨ids, middle, more, first, others, rfl⟩ := gatherInstances_cons_ok ran
    have asked : 0 < count := positive _ mem_cons_self
    have served := midway.served asked first
    rw [map_cons, length_cons, range'_succ, List.cons.injEq] at ordered
    obtain ⟨rfl, ordered⟩ := ordered
    rw [length_cons] at short
    have later := fun other listed => positive other (mem_cons_of_mem _ listed)
    have step := @ih (azIdx + 1) ordered (by omega) later
    have kept := gatherInstances_extends later others
    -- the instances of the rack are all in one zone, to the end of the call
    have block (zone : String) (placed : ∀ id ∈ ids, middle.zoneOf id = some zone) :
        ids.map after.zoneOf = replicate ids.length (some zone) :=
      map_eq_replicate_iff.mpr fun id listed => kept.zones id zone (placed id listed)
    rw [map_append]
    cases looked : lookedUp settings before dcIdx azIdx
        (before.zones (settings.region dcIdx) ++ grown) with
    | none =>
      simp only [looked] at served
      have size : ids.length = count := served.length
      rw [block _ served.placed, inTurn_block_iff distinct several (by omega) (by omega),
        step (midway.creates served) others, size]
      simp only [LoneFinds, looked, forall_mem_cons, served.subnet, true_and, and_assoc]
    | some zone =>
      simp only [looked] at served
      obtain rfl : middle = state := served.same
      have size : ids.length = (before.zones (settings.region dcIdx) ++ grown).count zone := by
        rw [served.all.length_eq, length_inZone, midway.zones]
      have enough : count ≤ ids.length := served.enough
      have placed : ∀ id ∈ ids, middle.zoneOf id = some zone := fun id listed =>
        zoneOf_of_mem_inZone (served.all.mem_iff.mp listed)
      rw [block zone placed, inTurn_block_iff distinct several (by omega) (by omega),
        step midway others]
      simp only [LoneFinds, looked, forall_mem_cons, ← size]
      constructor
      · intro turn
        exact ⟨⟨by omega, turn.2.2.1⟩, turn.2.1, turn.1, turn.2.2.2⟩
      · intro lone
        exact ⟨lone.2.2.1, lone.2.1, lone.1.2, lone.2.2.2⟩

end

/-- The instances of one rack are all in its zone exactly when those it finds are. -/
lemma gatherInstances_one_iff {settings : Settings} {state after : ClusterState}
    {count dcIdx azIdx : Nat} (positive : 0 < count) {gathered : List Nat}
    (ran : (gatherInstances settings dcIdx [(azIdx, count)]).run state = .ok gathered after) :
    (∀ id ∈ gathered, settings.rackZone dcIdx azIdx = after.zoneOf id) ↔
      FindsOwn settings state dcIdx azIdx := by
  obtain ⟨ids, middle, more, first, others, rfl⟩ := gatherInstances_cons_ok ran
  cases others
  have served := createOrFindInstances_ok positive first
  rw [append_nil, FindsOwn]
  cases looked : lookedUp settings state dcIdx azIdx (state.zones (settings.region dcIdx)) with
  | none =>
    simp only [looked] at served
    simp only [reduceCtorEq, false_implies, implies_true, iff_true]
    intro id listed
    rw [served.subnet, served.placed id listed]
  | some zone =>
    simp only [looked] at served
    obtain rfl : after = state := served.same
    have enough : count ≤ ids.length := served.enough
    obtain ⟨id, held⟩ := exists_mem_of_length_pos (by omega : 0 < ids.length)
    have placed : ∀ id ∈ ids, after.zoneOf id = some zone := fun id listed =>
      zoneOf_of_mem_inZone (served.all.mem_iff.mp listed)
    simp only [Option.some.injEq, forall_eq']
    constructor
    · intro all
      rw [all id held, placed id held]
    · intro own other listed
      rw [own, placed other listed]

def added (before after : ClusterState) : List Node := after.nodes.drop before.nodes.length

/-- Every added node has the rack whose zone its instance is in. -/
def RacksMatch (settings : Settings) (before after : ClusterState) : Prop :=
  ∀ node ∈ added before after,
    settings.rackZone (settings.instanceDc node.dcIdx) node.rack = after.zoneOf node.instanceId

instance (settings : Settings) (before after : ClusterState) :
    Decidable (RacksMatch settings before after) :=
  inferInstanceAs (Decidable (∀ node ∈ added before after,
    settings.rackZone (settings.instanceDc node.dcIdx) node.rack = after.zoneOf node.instanceId))

lemma inTurn_iff_zipIdx (settings : Settings) (dcIdx place : Nat) (zoneOf : Nat → Option String)
    (gathered : List Nat) :
    InTurn settings dcIdx place (gathered.map zoneOf) ↔ ∀ entry ∈ gathered.zipIdx place,
      settings.rackZone dcIdx (entry.2 % settings.racksCount) = zoneOf entry.1 := by
  induction gathered generalizing place with
  | nil => simp [InTurn]
  | cons entry rest ih =>
    rw [map_cons, zipIdx_cons, forall_mem_cons, ← ih (place + 1)]
    rfl

/-- Every added node has the rack whose zone its instance is in exactly when nothing is asked for;
or there is one rack for all nodes, and instances it finds are in its zone; or no rack gets two
instances: as many racks as nodes, and each finds at most one instance, in its zone. -/
theorem racksMatch_iff {settings : Settings} (real : settings.simulatedRacks = 0)
    (distinct : ∀ zones ∈ settings.subnetZones, zones.Nodup) {count dcIdx : Nat}
    {rack : Option Nat} {before after : ClusterState} {nodes : List Node}
    (returned : (addNodes settings count dcIdx rack).run before = .ok nodes after) :
    RacksMatch settings before after ↔
      count = 0 ∨
      ((rack.isSome ∨ settings.racksCount = 1) ∧ (rack.getD 0 < settings.racksCount →
        FindsOwn settings before (settings.instanceDc dcIdx) (rack.getD 0))) ∨
      (rack = none ∧ settings.racksCount ≠ 1 ∧ count ≤ settings.racksCount ∧
        LoneFinds settings before (settings.instanceDc dcIdx) before.batches []
          (settings.rackDemands count none)) := by
  have asGiven : settings.instanceAz rack = rack := by simp [Settings.instanceAz, real]
  have some := racksCount_pos settings
  by_cases zero : count = 0
  · subst zero
    cases returned
    simp [RacksMatch, added]
  have positive : 0 < count := Nat.pos_of_ne_zero zero
  obtain ⟨gathered, state, ran, zones, joined, _⟩ := addNodes_ok positive returned
  rw [RacksMatch, added, joined, drop_left, makeNodes, forall_mem_map]
  simp only [zero, zones, false_or]
  -- the nodes of one rack have the places of the instances only
  have alike (azIdx : Nat) (all : ∀ place, rack.getD (place % settings.racksCount) = azIdx)
      (demands : settings.rackDemands count rack =
        if azIdx < settings.racksCount then [(azIdx, count)] else []) :
      (∀ entry ∈ gathered.zipIdx, settings.rackZone (settings.instanceDc dcIdx)
          (rack.getD (entry.2 % settings.racksCount)) = state.zoneOf entry.1) ↔
        (azIdx < settings.racksCount →
          FindsOwn settings before (settings.instanceDc dcIdx) azIdx) := by
    have places : (∀ entry ∈ gathered.zipIdx, settings.rackZone (settings.instanceDc dcIdx) azIdx =
        state.zoneOf entry.1) ↔ ∀ id ∈ gathered,
          settings.rackZone (settings.instanceDc dcIdx) azIdx = state.zoneOf id := by
      conv_rhs => rw [← zipIdx_map_fst 0 gathered, forall_mem_map]
    simp only [all]
    rw [places]
    rw [demands] at ran
    split at ran
    · rename_i valid
      simp only [valid, true_implies]
      exact gatherInstances_one_iff positive ran
    · rename_i beyond
      cases ran
      simp [beyond]
  cases rack with
  | some azIdx =>
    simp only [Option.isSome_some, true_or, true_and, reduceCtorEq, false_and, or_false]
    exact alike azIdx (fun _ => rfl) (rackDemands_some asGiven positive)
  | none =>
    have demands := rackDemands_none asGiven count
    by_cases single : settings.racksCount = 1
    · simp only [single, or_true, true_and, ne_eq, not_true_eq_false, false_and, and_false,
        or_false]
      rw [← single]
      apply alike 0
      · intro place
        rw [single]
        exact Nat.mod_one place
      · rw [demands, single, Nat.min_eq_right positive]
        simp [RoundRobin.share, Nat.mod_one]
    · have several : 1 < settings.racksCount := by omega
      have ones : (∀ demand ∈ settings.rackDemands count none, demand.2 = 1) ↔
          count ≤ settings.racksCount := by
        rw [demands, forall_mem_map, ← RoundRobin.forall_share_eq_one_iff positive some]
        simp only [mem_range]
      have ordered : (settings.rackDemands count none).map Prod.fst =
          List.range' 0 (settings.rackDemands count none).length := by
        rw [demands]
        simp [Function.comp_def, range_eq_range']
      have turn := gatherInstances_inTurn_iff distinct several ordered (by rw [demands]; simp)
        rackDemands_positive (Midway.start settings before _) ran
      rw [ones, inTurn_iff_zipIdx] at turn
      simp only [single, Option.isSome_none, Bool.false_eq_true, or_self, false_and, false_or,
        true_and, ne_eq, not_false_eq_true]
      exact turn

theorem racks_match_for_two : ∃ nodes after,
    (addNodes twoZones 2 0 none).run nothingYet = .ok nodes after ∧
      RacksMatch twoZones nothingYet after := by
  obtain ⟨nodes, after, returned⟩ : ∃ nodes after,
      (addNodes twoZones 2 0 none).run nothingYet = .ok nodes after := ⟨_, _, rfl⟩
  have lone : LoneFinds twoZones nothingYet (twoZones.instanceDc 0) nothingYet.batches []
      (twoZones.rackDemands 2 none) := trivial
  exact ⟨nodes, after, returned,
    (racksMatch_iff rfl (by decide) returned).mpr (.inr (.inr ⟨rfl, by decide, by decide, lone⟩))⟩

theorem racks_of_four_mixed : ∃ nodes after,
    (addNodes twoZones 4 0 none).run nothingYet = .ok nodes after ∧
      ¬RacksMatch twoZones nothingYet after := by
  refine ⟨_, _, rfl, ?_⟩
  decide

end Sct.AwsNodes
