import Sct.Verif.AwsNodes

/-!
# As many new nodes as asked for

A rack that takes instances that exist takes all of its zone, however many there are and whoever
has them. A call adds the nodes it was asked for, on instances of their own, exactly when the
zones it takes hold as many instances as their racks ask for, none of them has a node, and no zone
is taken twice or after the call put instances of its own there.
-/

open List

namespace Sct.AwsNodes

/-- Instances that are all different, none of them with a node. -/
def Unshared (before : ClusterState) (ids : List Nat) : Prop :=
  ids.Nodup ∧ ∀ node ∈ before.nodes, node.instanceId ∉ ids

variable {before : ClusterState}

lemma Unshared.left {ids more : List Nat} (unshared : Unshared before (ids ++ more)) :
    Unshared before ids :=
  ⟨unshared.1.of_append_left,
    fun node known held => unshared.2 node known (mem_append_left more held)⟩

/-- Whether the zones of a call serve their racks: `grown` are the zones of the tagged instances
the call has made, `adopted` those it has taken. -/
def SoundFinds (settings : Settings) (before : ClusterState) (dcIdx : Nat) :
    Nat → List String → List String → List (Nat × Nat) → Prop
  | _, _, _, [] => True
  | batch, grown, adopted, (azIdx, count) :: rest =>
    match lookedUp settings before dcIdx azIdx (before.zones (settings.region dcIdx) ++ grown) with
    | none => SoundFinds settings before dcIdx (batch + 1)
        (grown ++ settings.grownZones (before.answers batch) count dcIdx azIdx) adopted rest
    | some zone => zone ∉ grown ∧ zone ∉ adopted ∧
        (before.inZone (settings.region dcIdx) zone).length = count ∧
        (∀ node ∈ before.nodes, node.instanceId ∉ before.inZone (settings.region dcIdx) zone) ∧
        SoundFinds settings before dcIdx batch grown (zone :: adopted) rest

/-- What a call has taken so far. -/
structure Holding (settings : Settings) (before : ClusterState) (dcIdx : Nat) (taken : List Nat)
    (grown adopted : List String) (state : ClusterState) : Prop where
  listing : ∃ made, state.listing (settings.region dcIdx) =
      before.listing (settings.region dcIdx) ++ made ∧
    (made.map fun entry => entry.2.zone) = grown ∧ ∀ entry ∈ made, entry.1 ∈ taken
  known : ∀ id ∈ taken, id ∈ state.instances.keys
  origin : ∀ id ∈ taken, id ∉ before.instances.keys ∨
    ∃ zone ∈ adopted, id ∈ before.inZone (settings.region dcIdx) zone
  whole : ∀ zone ∈ adopted, ∀ id ∈ before.inZone (settings.region dcIdx) zone, id ∈ taken
  present : ∀ zone ∈ adopted, before.inZone (settings.region dcIdx) zone ≠ []

lemma Holding.start (settings : Settings) (before : ClusterState) (dcIdx : Nat) :
    Holding settings before dcIdx [] [] [] before where
  listing := ⟨[], (append_nil _).symm, rfl, fun _ listed => nomatch listed⟩
  known := fun _ listed => nomatch listed
  origin := fun _ listed => nomatch listed
  whole := fun _ listed => nomatch listed
  present := fun _ listed => nomatch listed

variable (state : ClusterState)

lemma nodup_listing (region : String) : ((state.listing region).map Prod.fst).Nodup :=
  state.instances.distinct.sublist (filter_sublist.map Prod.fst)

variable {state} {region zone : String} {id : Nat}

lemma mem_inZone_iff :
    id ∈ state.inZone region zone ↔
      ∃ made, (id, made) ∈ state.listing region ∧ made.zone = zone := by
  simp [ClusterState.inZone]

lemma zone_eq_of_mem_inZone {other : String} (first : id ∈ state.inZone region zone)
    (second : id ∈ state.inZone region other) : zone = other := by
  obtain ⟨made, listed, rfl⟩ := mem_inZone_iff.mp first
  obtain ⟨again, also, rfl⟩ := mem_inZone_iff.mp second
  have same := inj_on_of_nodup_map (nodup_listing state region) listed also rfl
  cases same
  rfl

lemma mem_keys_of_mem_inZone (held : id ∈ state.inZone region zone) :
    id ∈ state.instances.keys := by
  obtain ⟨made, listed, _⟩ := mem_inZone_iff.mp held
  exact mem_map_of_mem (mem_filter.mp listed).1

section

variable {settings : Settings} {dcIdx : Nat} {taken : List Nat} {grown adopted : List String}
  {ids : List Nat}

section

variable (holding : Holding settings before dcIdx taken grown adopted state)

include holding

lemma Holding.inZone_eq (old : zone ∉ grown) :
    state.inZone (settings.region dcIdx) zone = before.inZone (settings.region dcIdx) zone := by
  obtain ⟨made, listed, placed, _⟩ := holding.listing
  have none : (made.filter fun entry => decide (entry.2.zone = zone)) = [] := by
    apply filter_eq_nil_iff.mpr
    intro entry new here
    apply old
    rw [← placed, ← of_decide_eq_true here]
    exact mem_map_of_mem new
  rw [ClusterState.inZone, listed, filter_append, none, append_nil]
  rfl

lemma Holding.exists_taken_of_grown (new : zone ∈ grown) :
    ∃ id ∈ taken, id ∈ state.inZone (settings.region dcIdx) zone := by
  obtain ⟨made, listed, placed, own⟩ := holding.listing
  rw [← placed] at new
  obtain ⟨entry, present, rfl⟩ := mem_map.mp new
  refine ⟨entry.1, own entry present, mem_inZone_iff.mpr ⟨entry.2, ?_, rfl⟩⟩
  rw [listed]
  exact mem_append_right _ present

lemma Holding.exists_taken_of_adopted (again : zone ∈ adopted) :
    ∃ id ∈ taken, id ∈ state.inZone (settings.region dcIdx) zone := by
  obtain ⟨id, held⟩ := exists_mem_of_ne_nil _ (holding.present zone again)
  obtain ⟨made, listed, place⟩ := mem_inZone_iff.mp held
  obtain ⟨new, whole, _⟩ := holding.listing
  refine ⟨id, holding.whole zone again id held, mem_inZone_iff.mpr ⟨made, ?_, place⟩⟩
  rw [whole]
  exact mem_append_left _ listed

variable {after : ClusterState} {count azIdx : Nat}

lemma Holding.creates (grew : Extends before state)
    (created : Creates settings count dcIdx azIdx state ids after) :
    Holding settings before dcIdx (taken ++ ids)
      (grown ++ settings.grownZones (state.answers state.batches) count dcIdx azIdx) adopted
      after where
  listing := by
    obtain ⟨made, listed, placed, own⟩ := holding.listing
    obtain ⟨new, also, there, mine⟩ := created.listing
    refine ⟨made ++ new, by rw [also, listed, append_assoc], ?_, ?_⟩
    · rw [map_append, placed, there]
    · intro entry present
      cases mem_append.mp present with
      | inl earlier => exact mem_append_left ids (own entry earlier)
      | inr now => exact mem_append_right taken (mine entry now)
  known := by
    intro id held
    cases mem_append.mp held with
    | inl earlier => exact created.extends_.keys (holding.known id earlier)
    | inr now => exact ClusterState.mem_keys_iff.mpr ⟨_, created.placed id now⟩
  origin := by
    intro id held
    cases mem_append.mp held with
    | inl earlier => exact holding.origin id earlier
    | inr now => exact .inl fun old => created.fresh id now (grew.keys old)
  whole := fun zone listed id held => mem_append_left ids (holding.whole zone listed id held)
  present := holding.present

lemma Unshared.creates (grew : Extends before state)
    (created : Creates settings count dcIdx azIdx state ids after)
    (unshared : Unshared before taken) : Unshared before (taken ++ ids) := by
  constructor
  · apply unshared.1.append created.distinct
    intro id earlier now
    exact created.fresh id now (holding.known id earlier)
  · intro node known held
    cases mem_append.mp held with
    | inl earlier => exact unshared.2 node known earlier
    | inr now => exact created.unused _ now node (grew.nodes ▸ known) rfl

/-- The instances of a zone stay unshared exactly when the call has nothing there yet and no node
has one of them. -/
lemma unshared_append_iff (unshared : Unshared before taken)
    (all : ids.Perm (state.inZone (settings.region dcIdx) zone)) :
    Unshared before (taken ++ ids) ↔ zone ∉ grown ∧ zone ∉ adopted ∧
      ∀ node ∈ before.nodes, node.instanceId ∉ before.inZone (settings.region dcIdx) zone := by
  constructor
  · intro both
    have apart := (nodup_append.mp both.1).2.2
    have old : zone ∉ grown := by
      intro new
      obtain ⟨id, earlier, here⟩ := holding.exists_taken_of_grown new
      exact apart id earlier id (all.mem_iff.mpr here) rfl
    refine ⟨old, ?_, ?_⟩
    · intro again
      obtain ⟨id, earlier, here⟩ := holding.exists_taken_of_adopted again
      exact apart id earlier id (all.mem_iff.mpr here) rfl
    · intro node known held
      rw [← holding.inZone_eq old] at held
      exact both.2 node known (mem_append_right taken (all.mem_iff.mpr held))
  · intro free
    obtain ⟨old, first, unused⟩ := free
    have same := holding.inZone_eq old
    constructor
    · apply unshared.1.append (all.nodup_iff.mpr
        ((nodup_listing state _).sublist (filter_sublist.map Prod.fst)))
      intro id earlier now
      have here := all.mem_iff.mp now
      rw [same] at here
      cases holding.origin id earlier with
      | inl new => exact new (mem_keys_of_mem_inZone here)
      | inr taken =>
        obtain ⟨other, listed, there⟩ := taken
        exact first (zone_eq_of_mem_inZone here there ▸ listed)
    · intro node known held
      cases mem_append.mp held with
      | inl earlier => exact unshared.2 node known earlier
      | inr now =>
        have here := all.mem_iff.mp now
        rw [same] at here
        exact unused node known here

lemma Holding.adopts
    (old : zone ∉ grown) (all : ids.Perm (state.inZone (settings.region dcIdx) zone))
    (some : ids ≠ []) :
    Holding settings before dcIdx (taken ++ ids) grown (zone :: adopted) state := by
  have same := holding.inZone_eq old
  rw [same] at all
  constructor
  case listing =>
    obtain ⟨made, listed, placed, own⟩ := holding.listing
    exact ⟨made, listed, placed, fun entry new => mem_append_left ids (own entry new)⟩
  case known =>
    intro id held
    cases mem_append.mp held with
    | inl earlier => exact holding.known id earlier
    | inr now =>
      have here := all.mem_iff.mp now
      rw [← same] at here
      exact mem_keys_of_mem_inZone here
  case origin =>
    intro id held
    cases mem_append.mp held with
    | inl earlier =>
      cases holding.origin id earlier with
      | inl new => exact .inl new
      | inr taken =>
        obtain ⟨other, listed, there⟩ := taken
        exact .inr ⟨other, mem_cons_of_mem zone listed, there⟩
    | inr now => exact .inr ⟨zone, mem_cons_self, all.mem_iff.mp now⟩
  case whole =>
    intro other listed id held
    cases mem_cons.mp listed with
    | inl equal =>
      subst equal
      exact mem_append_right taken (all.mem_iff.mpr held)
    | inr earlier => exact mem_append_left ids (holding.whole other earlier id held)
  case present =>
    intro other listed
    cases mem_cons.mp listed with
    | inl equal =>
      subst equal
      intro nothing
      rw [nothing] at all
      exact some all.eq_nil
    | inr earlier => exact holding.present other earlier

end

end

variable {count : Nat} {after : ClusterState} {settings : Settings} {gathered : List Nat}
  {demands : List (Nat × Nat)} {dcIdx : Nat}

lemma gatherInstances_length (positive : ∀ demand ∈ demands, 0 < demand.2)
    (ran : (gatherInstances settings dcIdx demands).run state = .ok gathered after) :
    (demands.map Prod.snd).sum ≤ gathered.length := by
  induction demands generalizing state gathered with
  | nil => exact Nat.zero_le _
  | cons demand rest ih =>
    obtain ⟨ids, middle, more, first, others, rfl⟩ := gatherInstances_cons_ok ran
    have own : demand.2 ≤ ids.length := by
      have served := createOrFindInstances_ok (positive _ mem_cons_self) first
      split at served
      · exact Nat.le_of_eq served.length.symm
      · exact served.enough
    have later := ih (fun other listed => positive other (mem_cons_of_mem _ listed)) others
    rw [map_cons, sum_cons, length_append]
    exact Nat.add_le_add own later

lemma gatherInstances_unshared_iff (positive : ∀ demand ∈ demands, 0 < demand.2) {batch : Nat}
    {taken : List Nat} {grown adopted : List String}
    (midway : Midway settings before dcIdx batch grown state)
    (holding : Holding settings before dcIdx taken grown adopted state)
    (unshared : Unshared before taken)
    (ran : (gatherInstances settings dcIdx demands).run state = .ok gathered after) :
    Unshared before (taken ++ gathered) ∧ gathered.length = (demands.map Prod.snd).sum ↔
      SoundFinds settings before dcIdx batch grown adopted demands := by
  induction demands generalizing batch taken grown adopted state gathered with
  | nil =>
    cases ran
    simp [SoundFinds, unshared]
  | cons demand rest ih =>
    obtain ⟨azIdx, count⟩ := demand
    obtain ⟨ids, middle, more, first, others, rfl⟩ := gatherInstances_cons_ok ran
    have asked : 0 < count := positive _ mem_cons_self
    have later := fun other listed => positive other (mem_cons_of_mem (azIdx, count) listed)
    have served := midway.served asked first
    rw [← append_assoc, length_append, map_cons, sum_cons]
    cases looked : lookedUp settings before dcIdx azIdx
        (before.zones (settings.region dcIdx) ++ grown) with
    | none =>
      simp only [looked] at served
      have answered : state.answers state.batches = before.answers batch := by
        rw [midway.extends_.answers, midway.batches]
      have held := holding.creates midway.extends_ served
      rw [answered] at held
      have step := ih later (midway.creates served) held
        (Unshared.creates holding midway.extends_ served unshared) others
      simp only [SoundFinds, looked]
      rw [← step, served.length, Nat.add_left_cancel_iff]
    | some zone =>
      simp only [looked] at served
      obtain rfl : middle = state := served.same
      have enough : count ≤ ids.length := served.enough
      have rested := gatherInstances_length later others
      have present : ids ≠ [] := ne_nil_of_length_pos (by omega)
      have free := unshared_append_iff holding unshared served.all
      simp only [SoundFinds, looked]
      constructor
      · intro sound
        obtain ⟨old, new, unused⟩ := free.mp sound.1.left
        have size : ids.length = count := by omega
        have counted : (before.inZone (settings.region dcIdx) zone).length = count := by
          rw [← holding.inZone_eq old, ← served.all.length_eq, size]
        have step := ih later midway (holding.adopts old served.all present) sound.1.left others
        exact ⟨old, new, counted, unused, step.mp ⟨sound.1, by omega⟩⟩
      · intro sound
        obtain ⟨old, new, counted, unused, rest⟩ := sound
        have apart := free.mpr ⟨old, new, unused⟩
        have size : ids.length = count := by
          rw [served.all.length_eq, holding.inZone_eq old, counted]
        have step := (ih later midway (holding.adopts old served.all present) apart others).mpr rest
        exact ⟨step.1, by omega⟩

/-! ## The nodes of a call -/

/-- A call has added the nodes it returns, as many as asked for, on instances of their own. -/
structure AddsExactly (before after : ClusterState) (count : Nat) (nodes : List Node) : Prop where
  appended : after.nodes = before.nodes ++ nodes
  length : nodes.length = count
  distinct : (nodes.map Node.instanceId).Nodup
  unused : ∀ node ∈ before.nodes, node.instanceId ∉ nodes.map Node.instanceId

variable {rack : Option Nat}

lemma sum_rackDemands (positive : 0 < count)
    (valid : ∀ azIdx, settings.instanceAz rack = some azIdx → azIdx < settings.racksCount) :
    ((settings.rackDemands count rack).map Prod.snd).sum = count := by
  cases given : settings.instanceAz rack with
  | none =>
    have whole := Nat.div_add_mod count settings.racksCount
    have short := Nat.mod_lt count (racksCount_pos settings)
    rw [rackDemands_none given, map_map]
    change ((List.range _).map (RoundRobin.share count settings.racksCount)).sum = count
    rw [RoundRobin.sum_share_range]
    by_cases few : count < settings.racksCount
    · rw [Nat.min_eq_left few.le, Nat.div_eq_of_lt few, Nat.mod_eq_of_lt few, Nat.mul_zero,
        Nat.zero_add, Nat.min_self]
    · rw [Nat.min_eq_right (Nat.le_of_not_lt few), Nat.min_eq_right short.le, whole]
  | some azIdx =>
    rw [rackDemands_some given positive, if_pos (valid azIdx given)]
    exact Nat.add_zero count

lemma addsExactly_iff_unshared {nodeIndex dcIdx : Nat}
    (joined : after.nodes = before.nodes ++ makeNodes settings nodeIndex dcIdx rack gathered) :
    AddsExactly before after count (after.nodes.drop (after.nodes.length - count)) ↔
      Unshared before gathered ∧ gathered.length = count := by
  have ids : (makeNodes settings nodeIndex dcIdx rack gathered).map Node.instanceId = gathered := by
    rw [makeNodes, map_map]
    exact zipIdx_map_fst 0 gathered
  have size : (makeNodes settings nodeIndex dcIdx rack gathered).length = gathered.length := by
    rw [makeNodes, length_map, length_zipIdx]
  constructor
  · intro exact_
    have made := append_cancel_left (joined.symm.trans exact_.appended)
    have distinct := exact_.distinct
    have unused := exact_.unused
    have length := exact_.length
    rw [← made] at distinct unused length
    rw [ids] at distinct unused
    exact ⟨⟨distinct, unused⟩, size.symm.trans length⟩
  · intro sound
    have made : after.nodes.drop (after.nodes.length - count) =
        makeNodes settings nodeIndex dcIdx rack gathered := by
      rw [joined, length_append, size, sound.2, Nat.add_sub_cancel, drop_left]
    rw [made]
    refine ⟨joined, size.trans sound.2, ?_, ?_⟩
    · rw [ids]
      exact sound.1.1
    · rw [ids]
      exact sound.1.2

/-- A call that returns has added exactly the nodes asked for when the rack given exists and the
zones the call takes serve their racks. -/
theorem addsExactly_iff {settings : Settings} {count dcIdx : Nat} (positive : 0 < count)
    {rack : Option Nat} {before after : ClusterState} {nodes : List Node}
    (returned : (addNodes settings count dcIdx rack).run before = .ok nodes after) :
    AddsExactly before after count nodes ↔
      (∀ azIdx, settings.instanceAz rack = some azIdx → azIdx < settings.racksCount) ∧
        SoundFinds settings before (settings.instanceDc dcIdx) before.batches [] []
          (settings.rackDemands count rack) := by
  obtain ⟨gathered, state, ran, _, joined, ends⟩ := addNodes_ok positive returned
  have sound := gatherInstances_unshared_iff rackDemands_positive
    (Midway.start settings before (settings.instanceDc dcIdx)) (Holding.start settings before _)
    ⟨nodup_nil, fun _ _ listed => nomatch listed⟩ ran
  rw [nil_append] at sound
  rw [ends, addsExactly_iff_unshared joined]
  by_cases valid : ∀ azIdx, settings.instanceAz rack = some azIdx → azIdx < settings.racksCount
  · rw [sum_rackDemands positive valid] at sound
    rw [sound]
    exact (and_iff_right valid).symm
  · push Not at valid
    obtain ⟨azIdx, given, beyond⟩ := valid
    rw [rackDemands_some given positive, if_neg (Nat.not_lt.mpr beyond)] at ran
    cases ran
    constructor
    · intro exact_
      exact absurd exact_.2 (Nat.ne_of_lt positive)
    · intro sound
      exact absurd (sound.1 azIdx given) (Nat.not_lt.mpr beyond)

theorem three_nodes_added : ∃ nodes after,
    (addNodes twoZones 3 0 none).run nothingYet = .ok nodes after ∧
      AddsExactly nothingYet after 3 nodes := by
  obtain ⟨nodes, after, returned⟩ : ∃ nodes after,
      (addNodes twoZones 3 0 none).run nothingYet = .ok nodes after := ⟨_, _, rfl⟩
  have sound : SoundFinds twoZones nothingYet (twoZones.instanceDc 0) nothingYet.batches [] []
      (twoZones.rackDemands 3 none) := trivial
  exact ⟨nodes, after, returned,
    (addsExactly_iff (by decide) returned).mpr ⟨fun _ given => (nomatch given), sound⟩⟩

def rackRemoved : ClusterState where
  instances := ⟨[(3, ⟨"eu-west-1", "b", true, some "3"⟩), (4, ⟨"eu-west-1", "b", true, some "4"⟩)],
    by decide⟩
  nodes := [⟨3, 3, 0, 1⟩, ⟨4, 4, 0, 1⟩]
  nodeIndex := 4
  batches := 4
  answers := fun _ => ⟨.granted, none⟩
  unreachable := []

theorem nodes_share_instances : ∃ nodes after,
    (addNodes twoZones 1 0 (some 0)).run rackRemoved = .ok nodes after ∧
      after.nodes.map Node.instanceId = [3, 4, 3, 4] ∧
      ¬AddsExactly rackRemoved after 1 nodes := by
  refine ⟨_, _, rfl, rfl, fun added => ?_⟩
  exact absurd added.unused (by decide)

end Sct.AwsNodes
