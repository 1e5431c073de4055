import Sct.Cluster.Group0

/-!
# Reporting and removing inconsistent members

The search lists the members that cannot vote only if none is missing from the token ring, so the
check misses them once some other member is missing. The clean-up goes through its host ids in
turn and keeps those it failed to remove.
-/

namespace Sct.Cluster

open List

namespace Membership

variable (membership : Membership)

def Missing (member : Group0Member) : Prop := member.hostId ∉ membership.tokenRingNodeIds

instance : DecidablePred membership.Missing := fun _ => inferInstanceAs (Decidable (¬ _))

lemma mem_nonVoters_iff {member : Group0Member} (listed : member ∈ membership.group0) :
    member.hostId ∈ membership.getGroup0NonVoters.map (·.hostId) ↔ member.voter = false := by
  simp only [getGroup0NonVoters, mem_map, mem_filter, Bool.not_eq_true']
  constructor
  · rintro ⟨other, ⟨inside, nonVoter⟩, same⟩
    rwa [← inj_on_of_nodup_map membership.distinct inside listed same]
  · intro nonVoter
    exact ⟨member, ⟨listed, nonVoter⟩, rfl⟩

/-- What the search returns is a `HostIds`. -/
lemma nodup_searchInconsistentHostIds : membership.searchInconsistentHostIds.Nodup := by
  unfold searchInconsistentHostIds
  split
  · exact membership.distinct.sublist (filter_sublist.map _)
  · exact membership.distinct.filter _

lemma mem_brokenHosts_iff {member : Group0Member} (listed : member ∈ membership.group0)
    (present : ¬membership.Missing member) : member.hostId ∈ membership.brokenHosts ↔
      (∀ other ∈ membership.group0, ¬membership.Missing other) ∧
        membership.limitedVoters = false ∧ member.voter = false := by
  have inDiff : member.hostId ∉ membership.getDiffGroup0TokenRingMembers := fun inside =>
    present (of_decide_eq_true (mem_filter.mp inside).2)
  have search : membership.getDiffGroup0TokenRingMembers = [] ∧ !membership.limitedVoters ↔
      (∀ other ∈ membership.group0, ¬membership.Missing other) ∧
        membership.limitedVoters = false := by
    simp [getDiffGroup0TokenRingMembers, Missing]
  unfold brokenHosts searchInconsistentHostIds
  split
  · rename_i fast
    refine iff_of_false not_mem_nil fun ⟨_, off, nonVoter⟩ => ?_
    rcases fast.2 with voters | on
    · exact Bool.false_ne_true (nonVoter.symm.trans (voters member listed))
    · rw [off, Bool.or_false] at on
      exact Bool.false_ne_true (off.symm.trans (membership.seen_on on))
  · split
    · rename_i none
      rw [membership.mem_nonVoters_iff listed]
      exact ⟨fun nonVoter => ⟨(search.mp none).1, (search.mp none).2, nonVoter⟩, fun all => all.2.2⟩
    · rename_i some
      exact iff_of_false inDiff fun all => some (search.mpr ⟨all.1, all.2.1⟩)

def reported : List Group0Member :=
  membership.checkGroup0TokenringConsistency.filterMap fun
    | .filteredOut _ => none
    | .inconsistent member _ => some member

lemma reported_eq : membership.reported = membership.group0.filter fun member =>
    membership.Missing member ∨ member.hostId ∈ membership.brokenHosts := by
  unfold reported checkGroup0TokenringConsistency
  rw [filterMap_append, filterMap_map, apply_ite (filterMap _), filterMap_cons, filterMap_nil,
    ite_self, nil_append]
  refine (filterMap_some).trans (filter_congr fun member _ => ?_)
  rw [decide_eq_decide, not_and_or, not_not]
  rfl

/-- The members that are missing or, without limited voters, cannot vote. -/
def inconsistent : List Group0Member := membership.group0.filter fun member =>
  membership.Missing member ∨ membership.limitedVoters = false ∧ member.voter = false

/-- Without limited voters, one member is missing and another one in the ring cannot vote. -/
def Masked : Prop :=
  membership.limitedVoters = false ∧ (∃ member ∈ membership.group0, membership.Missing member) ∧
    ∃ member ∈ membership.group0, ¬membership.Missing member ∧ member.voter = false

theorem reported_iff : membership.reported = membership.inconsistent ↔ ¬membership.Masked := by
  rw [reported_eq]
  constructor
  · rintro same ⟨off, ⟨missing, listed, absent⟩, member, inside, present, nonVoter⟩
    have due : member ∈ membership.inconsistent :=
      mem_filter.mpr ⟨inside, decide_eq_true (.inr ⟨off, nonVoter⟩)⟩
    rw [← same] at due
    have broken := (of_decide_eq_true (mem_filter.mp due).2).resolve_left present
    exact ((membership.mem_brokenHosts_iff inside present).mp broken).1 missing listed absent
  · intro clear
    apply filter_congr
    intro member listed
    rw [decide_eq_decide]
    by_cases present : membership.Missing member
    · exact iff_of_true (.inl present) (.inl present)
    rw [membership.mem_brokenHosts_iff listed present]
    refine or_congr_right ⟨And.right, fun ⟨off, nonVoter⟩ => ⟨fun other inside missing => ?_, off,
      nonVoter⟩⟩
    exact clear ⟨off, ⟨other, inside, missing⟩, member, listed, present, nonVoter⟩

/-- Without limited voters, a member that cannot vote is not reported beside one that is missing. -/
theorem non_voter_not_reported :
    let membership : Membership := ⟨[⟨"a", true⟩, ⟨"b", false⟩], [⟨some "b", some "10.0.0.2"⟩],
      false, false, by decide, nofun⟩
    membership.reported = [⟨"a", true⟩] ∧
      membership.inconsistent = [⟨"a", true⟩, ⟨"b", false⟩] := by
  decide

end Membership

/-- The host ids still to be removed after `earlier` commands. -/
def Pending (hostIds : List String) (earlier : List Removal) (hostId : String) : Prop :=
  hostId ∈ hostIds ∧ ∀ done ∈ earlier, done.ok = true → done.hostId ≠ hostId

lemma removals_length (results : Nat → Bool) (hostIds : List String) (attempt : Nat) :
    (removals results hostIds attempt).length ≤ hostIds.length + attempt := by
  fun_induction removals results hostIds attempt with
  | case1 => simp
  | case2 results removing hostIds attempt succeeded failed =>
    rw [length_append, length_singleton] at failed
    rw [length_cons, length_cons]
    split
    · omega
    · split
      · rw [length_nil]
        omega
      · omega

lemma pending_cons_iff {removing hostId : String} {hostIds ignored : List String}
    (distinct : (removing :: hostIds).Nodup) (ok : Bool) (earlier : List Removal) :
    Pending (removing :: hostIds) (⟨removing, ignored, ok⟩ :: earlier) hostId ↔
      Pending (if ok then hostIds else hostIds ++ [removing]) earlier hostId := by
  have fresh := (nodup_cons.mp distinct).1
  by_cases same : hostId = removing
  · cases ok <;> simp [Pending, same, fresh]
  · cases ok <;> simp [Pending, same, Ne.symm same]

lemma removals_pending {results : Nat → Bool} {hostIds : List String} {attempt : Nat}
    (distinct : hostIds.Nodup) {earlier later : List Removal} {removal : Removal}
    (split : removals results hostIds attempt = earlier ++ removal :: later) :
    Pending hostIds earlier removal.hostId ∧
      ∀ id, id ∈ removal.ignored ↔ Pending hostIds earlier id ∧ id ≠ removal.hostId := by
  fun_induction removals results hostIds attempt generalizing earlier with
  | case1 => simp at split
  | case2 results removing hostIds attempt succeeded failed =>
    cases earlier with
    | nil =>
      obtain ⟨rfl, -⟩ := cons.inj split
      have fresh := (nodup_cons.mp distinct).1
      refine ⟨⟨mem_cons_self, nofun⟩, fun id => ?_⟩
      by_cases same : id = removing <;> simp [Pending, same, fresh]
    | cons first earlier =>
      obtain ⟨rfl, rest⟩ := cons.inj split
      simp only [pending_cons_iff distinct]
      split at rest
      · rename_i ok
        rw [if_pos ok]
        exact succeeded (nodup_cons.mp distinct).2 rest
      · rename_i failure
        rw [if_neg failure]
        split at rest
        · cases earlier <;> cases rest
        · rename_i left
          have rotated := (perm_append_singleton removing hostIds).nodup_iff.mpr distinct
          exact failed left rotated rest

theorem cleanGroup0Garbage_spec (raiseException : Bool) (hostIds missingHostIds : HostIds)
    (results : Nat → Bool) :
    let (commands, raised) := cleanGroup0Garbage raiseException hostIds missingHostIds results
    commands.length ≤ hostIds.val.length + 3 ∧
      (∀ earlier removal later, commands = earlier ++ removal :: later →
        Pending hostIds.val earlier removal.hostId ∧
          ∀ id, id ∈ removal.ignored ↔
            Pending hostIds.val earlier id ∧ id ≠ removal.hostId) ∧
      (raiseException = true → (raised = false ↔ missingHostIds.val = [])) := by
  refine ⟨removals_length _ _ _, fun _ _ _ split => removals_pending hostIds.property split, ?_⟩
  intro raises
  simp [raises]

end Sct.Cluster
