import Sct.Provision.Aws.DedicatedHost

/-!
# Released hosts stay in the table

A reservation puts an allocated host into the table and takes no host away from the account. A
release takes the hosts of the table away and leaves the table as it is. So the table holds only
allocated hosts exactly as long as no release meets a host in the table.
-/

open List

namespace Sct.DedicatedHost

def State.IsAllocated (state : State) (hostId : String) : Prop :=
  ∃ host ∈ state.allocated, host.hostId = hostId

/-- Neither placement nor the next release gets a host that is not allocated. -/
structure HoldsOnlyAllocated (state : State) : Prop where
  placed : ∀ zone instanceType hostId,
    getHost state zone instanceType = some hostId → state.IsAllocated hostId
  released : ∀ hostId ∈ state.hostIds, state.IsAllocated hostId

/-- The call releases no host of the table. -/
def Call.Spares (state : State) : Call → Prop
  | .reserve _ _ => True
  | .release => state.hostIds = [] ∨ state.keepAlive = true
  | .releaseByTags tagged dryRun => dryRun = true ∨ ∀ hostId ∈ tagged, hostId ∉ state.hostIds

lemma mem_hostIds {state : State} {hostId : String} : hostId ∈ state.hostIds ↔
    ∃ zone instanceType, getHost state zone instanceType = some hostId := by
  constructor
  · intro listed
    obtain ⟨⟨zone, held⟩, inTable, inZone⟩ := mem_flatMap.mp listed
    obtain ⟨⟨instanceType, found⟩, entry, rfl⟩ := mem_map.mp inZone
    have zoned := (state.hosts.mem_entries_iff zone held).mp inTable
    refine ⟨zone, instanceType, ?_⟩
    rw [getHost, zoned]
    exact (held.mem_entries_iff instanceType found).mp entry
  · rintro ⟨zone, instanceType, found⟩
    unfold getHost at found
    cases zoned : state.hosts.get zone with
    | none =>
      rw [zoned] at found
      cases found
    | some held =>
      rw [zoned] at found
      have entry := (held.mem_entries_iff instanceType hostId).mpr found
      have inTable := (state.hosts.mem_entries_iff zone held).mpr zoned
      exact mem_flatMap.mpr ⟨_, inTable, mem_map_of_mem entry⟩

lemma holdsOnlyAllocated_iff {state : State} :
    HoldsOnlyAllocated state ↔ ∀ hostId ∈ state.hostIds, state.IsAllocated hostId := by
  constructor
  · exact HoldsOnlyAllocated.released
  · intro allocated
    refine ⟨?_, allocated⟩
    intro zone instanceType hostId found
    exact allocated hostId (mem_hostIds.mpr ⟨zone, instanceType, found⟩)

/-! ## One call -/

lemma mem_hostIds_keep {state : State} {host : Host} {hostId : String}
    (listed : hostId ∈ (state.keep host).hostIds) : hostId = host.hostId ∨ hostId ∈ state.hostIds := by
  obtain ⟨zone, instanceType, found⟩ := mem_hostIds.mp listed
  rw [getHost, State.keep, Dict.get_set] at found
  by_cases same : zone = host.availabilityZone
  · rw [if_pos same, Option.getD_some, Dict.get_set] at found
    split at found
    · exact Or.inl (Option.some.inj found).symm
    · cases found
  · rw [if_neg same] at found
    exact Or.inr (mem_hostIds.mpr ⟨zone, instanceType, found⟩)

section

variable {state : State} (before : HoldsOnlyAllocated state)

include before

lemma HoldsOnlyAllocated.keep {host : Host}
    {allocated : List Host} (more : state.allocated ⊆ allocated) (listed : host ∈ allocated) :
    HoldsOnlyAllocated ({ state with allocated }.keep host) := by
  rw [holdsOnlyAllocated_iff]
  intro hostId held
  rcases mem_hostIds_keep held with rfl | old
  · exact ⟨host, listed, rfl⟩
  · obtain ⟨known, there, named⟩ := before.released hostId old
    exact ⟨known, more there, named⟩

lemma allocateIn_holds {params : Params} {answers : Answers} {testId : String} (zones : List String) :
    HoldsOnlyAllocated (allocateIn params answers testId zones state).2 := by
  induction zones with
  | nil => exact before
  | cons zone rest ih =>
    rw [allocateIn]
    split
    · exact ih
    · exact before.keep (subset_append_left _ _) (by simp)

lemma reserve_holds (params : Params)
    (answers : Answers) : HoldsOnlyAllocated (reserve params answers state).2 := by
  unfold reserve
  split
  · -- The setting of the keep-alive is not read by the table.
    have set (keepAlive : Bool) : HoldsOnlyAllocated { state with keepAlive } :=
      ⟨before.placed, before.released⟩
    dsimp only
    split
    · rename_i host _ described
      have listed : host ∈ state.allocated :=
        (mem_filter.mp (answers.described _ (described ▸ mem_cons_self))).1
      exact (set (params.postBehaviorDedicatedHost == "keep")).keep (List.Subset.refl _) listed
    · exact allocateIn_holds (set _) _
  · exact before

/-- Releasing keeps the table right exactly when none of the released hosts is in it. -/
lemma releaseHosts_holds_iff
    (hostIds : List String) : HoldsOnlyAllocated (releaseHosts hostIds state) ↔
      ∀ hostId ∈ hostIds, hostId ∉ state.hostIds := by
  rw [holdsOnlyAllocated_iff]
  constructor
  · intro after hostId released held
    obtain ⟨host, kept, rfl⟩ := after hostId held
    have spared := (mem_filter.mp kept).2
    simp [released] at spared
  · intro spared hostId held
    obtain ⟨host, there, rfl⟩ := before.released hostId held
    refine ⟨host, mem_filter.mpr ⟨there, ?_⟩, rfl⟩
    have other : host.hostId ∉ hostIds := fun released => spared _ released held
    simpa using other

lemma step_holds_iff (call : Call) :
    HoldsOnlyAllocated (step state call) ↔ call.Spares state := by
  cases call with
  | reserve params answers =>
    exact iff_true_intro (reserve_holds before params answers)
  | release =>
    show HoldsOnlyAllocated (release state) ↔ state.hostIds = [] ∨ state.keepAlive = true
    unfold release
    split
    · rename_i idle
      exact iff_of_true before idle
    · rename_i busy
      rw [releaseHosts_holds_iff before, iff_false_right busy]
      intro spared
      exact busy (Or.inl (eq_nil_iff_forall_not_mem.mpr fun hostId held =>
        spared hostId held held))
  | releaseByTags tagged dryRun =>
    show HoldsOnlyAllocated (releaseByTags tagged dryRun state) ↔
      dryRun = true ∨ ∀ hostId ∈ tagged, hostId ∉ state.hostIds
    unfold releaseByTags
    cases dryRun with
    | true => exact iff_of_true before (Or.inl rfl)
    | false =>
      have real : ¬ false = true := Bool.false_ne_true
      rw [if_neg real, releaseHosts_holds_iff before, or_iff_right real]

end

/-! ## Sequences of calls -/

/-- Whatever is reserved and released, from an empty table on: it holds only allocated hosts after
each call exactly if every call spares the hosts that are in it then. -/
theorem table_holds_only_allocated_iff (keepAlive : Bool) (allocated : List Host)
    (calls : List Call) :
    (∀ before, before <+: calls → HoldsOnlyAllocated (run ⟨Dict.empty, keepAlive, allocated⟩ before)) ↔
      ∀ before call, before ++ [call] <+: calls →
        call.Spares (run ⟨Dict.empty, keepAlive, allocated⟩ before) := by
  constructor
  · intro holds before call made
    have earlier := holds before ((prefix_append before [call]).trans made)
    have later := holds (before ++ [call]) made
    rw [run, foldl_append] at later
    exact (step_holds_iff earlier call).mp later
  · intro spares before
    induction before using List.reverseRecOn with
    | nil =>
      intro _
      rw [holdsOnlyAllocated_iff]
      intro hostId held
      cases held
    | append_singleton before call ih =>
      intro made
      have earlier := ih ((prefix_append before [call]).trans made)
      rw [run, foldl_append]
      exact (step_holds_iff earlier call).mpr (spares before call made)

def onDemand : Params := ⟨"aws", "t", "", "i4i.large", true, "on_demand", "destroy", [], "a"⟩

def oneZone : Answers := ⟨id, fun _ => List.Subset.refl _, fun _ => ["us-east-1a"], fun _ => some "h-1"⟩

/-- After one reservation and its release the table hands out the released host. -/
theorem released_host_handed_out :
    getHost (run ⟨Dict.empty, false, []⟩ [.reserve onDemand oneZone, .release]) "us-east-1a"
        "i4i.large" = some "h-1" ∧
      (run ⟨Dict.empty, false, []⟩ [.reserve onDemand oneZone, .release]).allocated = [] := by
  decide

end Sct.DedicatedHost
