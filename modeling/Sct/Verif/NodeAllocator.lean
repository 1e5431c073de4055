import Mathlib.Data.List.Dedup
import Mathlib.Data.List.Induction
import Mathlib.Logic.Relation
import Sct.Nemesis.NodeAllocator

/-!
# Histories of the allocator

What an operation can do to the allocator is said once: it makes moves of its own label. A move
enters a free node under the label, releases a node held under the label, or publishes an event.
Moves keep the table and the `running_nemesis` attributes in step and leave the records of other
labels alone, so every operation does, and so does every history of operations.
-/

open Sct.Effect
open List
open EStateM (run_bind run_get)

namespace Sct.Nemesis

variable {ν : Type} [DecidableEq ν]

/-- What one label may do to the allocator. -/
inductive Move (label : String) : Allocator ν → Allocator ν → Prop where
  | hold (state : Allocator ν) (node : ν) (free : state.activeNemesisOnNodes.get node = none) :
      Move label state (state.hold node label)
  | release (state : Allocator ν) (node : ν)
      (held : state.activeNemesisOnNodes.get node = some label) :
      Move label state (state.release node)
  | publish (state : Allocator ν) (message : String) : Move label state (state.publish message)

/-- Any number of moves of one label. -/
abbrev Moves (label : String) : Allocator ν → Allocator ν → Prop :=
  Relation.ReflTransGen (Move label)

namespace Allocator

/-- A node is recorded for a label exactly when it is marked with it. -/
def Consistent (state : Allocator ν) : Prop :=
  ∀ node label, state.activeNemesisOnNodes.get node = some label ↔
    state.runningNemesis node = some label

lemma consistent_iff (state : Allocator ν) :
    state.Consistent ↔ ∀ node, state.activeNemesisOnNodes.get node = state.runningNemesis node := by
  constructor
  · intro consistent node
    exact Option.ext (consistent node)
  · intro same node label
    rw [same node]

end Allocator

namespace Move

variable {label : String} {before after : Allocator ν}

lemma consistent (move : Move label before after) (consistent : before.Consistent) :
    after.Consistent := by
  rw [Allocator.consistent_iff] at consistent ⊢
  intro node
  cases move with
  | hold taken free =>
    simp only [Allocator.hold, Dict.get_set, Function.update_apply, consistent node]
  | release given held =>
    simp only [Allocator.release, Dict.get_erase, Function.update_apply, consistent node]
  | publish message => exact consistent node

lemma held_iff (move : Move label before after) (node : ν) {owner : String}
    (differ : owner ≠ label) : after.activeNemesisOnNodes.get node = some owner ↔
      before.activeNemesisOnNodes.get node = some owner := by
  cases move with
  | hold taken free =>
    rw [Allocator.hold, Dict.get_set]
    split
    · rename_i same
      simp [same, free, differ.symm]
    · rfl
  | release given mine =>
    rw [Allocator.release, Dict.get_erase]
    split
    · rename_i same
      simp [same, mine, differ.symm]
    · rfl
  | publish message => rfl

end Move

namespace Moves

variable {label : String} {before after : Allocator ν}

lemma consistent (moves : Moves label before after) (start : before.Consistent) :
    after.Consistent := by
  induction moves with
  | refl => exact start
  | tail _ move ih => exact move.consistent ih

lemma held_iff (moves : Moves label before after) (node : ν) {owner : String}
    (differ : owner ≠ label) : after.activeNemesisOnNodes.get node = some owner ↔
      before.activeNemesisOnNodes.get node = some owner := by
  induction moves with
  | refl => rfl
  | tail _ move ih => exact (move.held_iff node differ).trans ih

end Moves

/-! ## The operations -/

variable {selection : Selection ν} {state : Allocator ν} {node : ν} {nodes : List ν}

omit [DecidableEq ν] in
lemma mem_keepWanted_iff {α : Type} [DecidableEq α] {wanted : Option α} {field : ν → α} :
    node ∈ keepWanted wanted field nodes ↔
      node ∈ nodes ∧ ∀ value ∈ wanted, field node = value := by
  cases wanted with
  | none => simp [keepWanted]
  | some value => simp [keepWanted]

/-- The node is in the pool, free, and as the criteria want it. -/
structure Candidate (tester : Tester ν) (selection : Selection ν) (state : Allocator ν)
    (node : ν) : Prop where
  pooled : node ∈ getPoolTypeNodes tester selection.poolType
  free : state.activeNemesisOnNodes.get node = none
  seed : ∀ isSeed ∈ selection.isSeed.wanted selection.filterSeed, (tester.info node).isSeed = isSeed
  dc : ∀ dcIdx ∈ selection.dcIdx, (tester.info node).dcIdx = dcIdx
  rack : ∀ rack ∈ selection.rack, (tester.info node).rack = rack

def candidates (tester : Tester ν) (selection : Selection ν) (state : Allocator ν) : List ν :=
  filterNodes tester selection (availableForSelection tester selection state)

variable {tester : Tester ν}

lemma mem_availableForSelection_iff :
    node ∈ availableForSelection tester selection state ↔
      (node ∈ getPoolTypeNodes tester selection.poolType ∧
        state.activeNemesisOnNodes.get node = none) ∧
        ∀ nodes ∈ selection.nodeList, nodes ≠ [] → node ∈ nodes := by
  unfold availableForSelection
  split
  · rename_i first rest given
    rw [(selection.order.perm _).mem_iff, mem_dedup]
    simp [given, Dict.notMem_iff, and_assoc, and_comm]
  · rename_i other
    have unread : ∀ nodes ∈ selection.nodeList, nodes ≠ [] → node ∈ nodes := by
      intro nodes given nonempty
      obtain ⟨first, rest, rfl⟩ := exists_cons_of_ne_nil nonempty
      exact absurd given (other first rest)
    rw [and_iff_left unread]
    simp [Dict.notMem_iff]

lemma mem_candidates_iff : node ∈ candidates tester selection state ↔
    Candidate tester selection state node ∧
      ∀ nodes ∈ selection.nodeList, nodes ≠ [] → node ∈ nodes := by
  unfold candidates filterNodes
  simp only [mem_keepWanted_iff, mem_availableForSelection_iff]
  constructor
  · rintro ⟨⟨⟨⟨⟨pooled, free⟩, listed⟩, seed⟩, dc⟩, rack⟩
    exact ⟨⟨pooled, free, seed, dc, rack⟩, listed⟩
  · rintro ⟨⟨pooled, free, seed, dc, rack⟩, listed⟩
    exact ⟨⟨⟨⟨⟨pooled, free⟩, listed⟩, seed⟩, dc⟩, rack⟩

omit [DecidableEq ν] in
lemma pick_cases (selection : Selection ν) (nodes : List ν) :
    nodes = [] ∧ pick selection nodes = none ∨ ∃ node ∈ nodes, pick selection nodes = some node := by
  by_cases none : nodes = []
  · exact Or.inl ⟨none, by simp [none, pick]⟩
  · apply Or.inr
    unfold pick
    split
    · exact ⟨_, getLast_mem none, getLast?_eq_some_getLast none⟩
    · have inside := Nat.mod_lt selection.draw (length_pos_iff.mpr none)
      exact ⟨_, getElem_mem inside, getElem?_eq_getElem inside⟩

variable (tester : Tester ν)

lemma selectTargetNode_cases (selection : Selection ν) (label : String) (state : Allocator ν) :
    candidates tester selection state = [] ∧
        (∃ error, (selectTargetNode tester selection label).run state = .error error state) ∨
      ∃ node ∈ candidates tester selection state,
        (selectTargetNode tester selection label).run state = .ok node (state.hold node label) := by
  unfold selectTargetNode
  rw [run_bind, run_get]
  simp only
  rcases pick_cases selection (candidates tester selection state) with ⟨none, picked⟩ | picked
  · rw [candidates] at picked
    rw [picked]
    split
    · exact .inl ⟨none, _, rfl⟩
    · exact .inl ⟨none, _, rfl⟩
  · obtain ⟨node, listed, picked⟩ := picked
    have available : availableForSelection tester selection state ≠ [] := by
      intro empty
      have there := (mem_candidates_iff.mp listed)
      have member := mem_availableForSelection_iff.mpr ⟨⟨there.1.pooled, there.1.free⟩, there.2⟩
      rw [empty] at member
      cases member
    rw [candidates] at picked
    rw [if_neg available, picked]
    exact .inr ⟨node, listed, rfl⟩

lemma setRunningNemesis_cases (node : ν) (label : String) (state : Allocator ν) :
    state.activeNemesisOnNodes.get node = none ∧
        (setRunningNemesis tester node label).run state = .ok true (state.hold node label) ∨
      ∃ message, (setRunningNemesis tester node label).run state =
        .ok false (state.publish message) := by
  unfold setRunningNemesis
  rw [run_bind, run_get]
  simp only
  split
  · exact .inr ⟨_, rfl⟩
  · rename_i absent
    exact .inl ⟨(Dict.notMem_iff _ _).mp absent, rfl⟩

lemma unsetRunningNemesis_cases (node : ν) (label : String) (state : Allocator ν) :
    state.activeNemesisOnNodes.get node = some label ∧
        (unsetRunningNemesis tester node label).run state = .ok () (state.release node) ∨
      state.activeNemesisOnNodes.get node ≠ some label ∧
        ∃ message, (unsetRunningNemesis tester node label).run state =
          .ok () (state.publish message) := by
  unfold unsetRunningNemesis
  rw [run_bind, run_get]
  simp only
  split
  · rename_i owner held
    split
    · rename_i mine
      exact .inl ⟨mine ▸ held, rfl⟩
    · rename_i foreign
      exact .inr ⟨fun mine => foreign (Option.some.inj (held.symm.trans mine)), _, rfl⟩
  · rename_i absent
    exact .inr ⟨by simp [absent], _, rfl⟩

lemma setRunningNemesis_moves (node : ν) (label : String) (state : Allocator ν) :
    Moves label state (exitState ((setRunningNemesis tester node label).run state)) := by
  rcases setRunningNemesis_cases tester node label state with ⟨free, ran⟩ | ⟨message, ran⟩
  · rw [ran]
    exact .single (.hold state node free)
  · rw [ran]
    exact .single (.publish state message)

lemma unsetRunningNemesis_moves (node : ν) (label : String) (state : Allocator ν) :
    Moves label state (exitState ((unsetRunningNemesis tester node label).run state)) := by
  rcases unsetRunningNemesis_cases tester node label state with ⟨held, ran⟩ | ⟨-, message, ran⟩
  · rw [ran]
    exact .single (.release state node held)
  · rw [ran]
    exact .single (.publish state message)

variable {label : String}

lemma moves_releaseAll (distinct : nodes.Nodup)
    (held : ∀ node ∈ nodes, state.activeNemesisOnNodes.get node = some label) :
    Moves label state (nodes.foldl Allocator.release state) := by
  induction nodes generalizing state with
  | nil => exact .refl
  | cons node rest ih =>
    obtain ⟨fresh, distinct⟩ := nodup_cons.mp distinct
    have first : Move label state (state.release node) :=
      .release state node (held node mem_cons_self)
    refine .head first (ih distinct ?_)
    intro other listed
    have differ : other ≠ node := by
      rintro rfl
      exact fresh listed
    rw [Allocator.release, Dict.get_erase, if_neg differ]
    exact held other (mem_cons_of_mem node listed)

lemma unsetRunningNemesisFromAllNodes_moves (label : String) (state : Allocator ν) :
    Moves label state (exitState ((unsetRunningNemesisFromAllNodes label).run state)) := by
  refine moves_releaseAll ?_ ?_
  · exact state.activeNemesisOnNodes.distinct.sublist (filter_sublist.map Prod.fst)
  · intro node listed
    obtain ⟨⟨held, owner⟩, kept, rfl⟩ := mem_map.mp listed
    obtain ⟨entry, mine⟩ := mem_filter.mp kept
    rw [← Dict.mem_entries_iff]
    exact of_decide_eq_true mine ▸ entry

lemma get_releaseAll (nodes : List ν) (state : Allocator ν) (node : ν) :
    (nodes.foldl Allocator.release state).activeNemesisOnNodes.get node =
      if node ∈ nodes then none else state.activeNemesisOnNodes.get node := by
  induction nodes generalizing state with
  | nil => rfl
  | cons first rest ih =>
    rw [foldl_cons, ih, Allocator.release, Dict.get_erase]
    by_cases later : node ∈ rest
    · rw [if_pos later, if_pos (mem_cons_of_mem first later)]
    · rw [if_neg later]
      by_cases now : node = first
      · rw [if_pos now, now, if_pos mem_cons_self]
      · rw [if_neg now, if_neg]
        exact fun listed => (mem_cons.mp listed).elim now later

lemma unsetRunningNemesisFromAllNodes_clears (label : String) (state : Allocator ν) :
    ∃ after, (unsetRunningNemesisFromAllNodes label).run state = .ok () after ∧
      ∀ node, after.activeNemesisOnNodes.get node ≠ some label := by
  refine ⟨_, rfl, fun node held => ?_⟩
  rw [get_releaseAll] at held
  split at held
  · cases held
  · rename_i kept
    apply kept
    have entry := (Dict.mem_entries_iff _ _ _).mpr held
    exact mem_map.mpr ⟨(node, label), mem_filter.mpr ⟨entry, decide_eq_true rfl⟩, rfl⟩

lemma releaseOldNode_moves (oldNode : ν) (label : String) (state : Allocator ν) :
    ∃ after, (releaseOldNode tester oldNode label).run state = .ok () after ∧
      Moves label state after ∧
      ∀ node, state.activeNemesisOnNodes.get node = none →
        after.activeNemesisOnNodes.get node = none := by
  unfold releaseOldNode
  rw [run_bind, run_get]
  simp only
  split
  · exact ⟨state, rfl, .refl, fun _ free => free⟩
  · rename_i owner held
    split
    · rename_i mine
      refine ⟨state.release oldNode, rfl, .single (.release state oldNode (mine ▸ held)), ?_⟩
      intro node free
      rw [Allocator.release, Dict.get_erase, free, ite_self]
    · exact ⟨_, rfl, .single (.publish state _), fun _ free => free⟩

lemma switchTargetNode_moves (oldNode : Option ν) (newNode : ν) (label : String)
    (state : Allocator ν) :
    Moves label state
      (exitState ((switchTargetNode tester oldNode newNode label).run state)) := by
  unfold switchTargetNode
  split
  · exact .refl
  · rw [run_bind, run_get]
    simp only
    split
    · exact .refl
    · rename_i free
      cases oldNode with
      | none => exact .single (.hold state newNode free)
      | some node =>
        obtain ⟨middle, ran, moves, kept⟩ := releaseOldNode_moves tester node label state
        rw [run_bind, Option.forM, ran]
        exact moves.tail (.hold middle newNode (kept newNode free))

lemma Call.moves (call : Call ν) (state : Allocator ν) :
    Moves call.label state (Call.step state call) := by
  obtain ⟨label, tester, operation⟩ := call
  unfold Call.step Call.run
  cases operation with
  | select selection =>
    rw [exitState_map]
    rcases selectTargetNode_cases tester selection label state with
      ⟨-, error, ran⟩ | ⟨node, listed, ran⟩
    · rw [ran]
      exact .refl
    · rw [ran]
      exact .single (.hold state node (mem_candidates_iff.mp listed).1.free)
  | set node =>
    rw [exitState_map]
    exact setRunningNemesis_moves tester node label state
  | unset node =>
    rw [exitState_map]
    exact unsetRunningNemesis_moves tester node label state
  | unsetFromAll =>
    exact unsetRunningNemesisFromAllNodes_moves label state
  | switch oldNode newNode =>
    rw [exitState_map]
    exact switchTargetNode_moves tester oldNode newNode label state

/-! ## Histories -/

variable (calls : List (Call ν))

lemma afterCalls_snoc (call : Call ν) :
    afterCalls (calls ++ [call]) = Call.step (afterCalls calls) call := by
  rw [afterCalls, foldl_append]
  rfl

lemma afterCalls_consistent : (afterCalls calls).Consistent := by
  induction calls using List.reverseRecOn with
  | nil =>
    intro node label
    simp [afterCalls, Allocator.initial]
  | append_singleton calls call ih =>
    rw [afterCalls_snoc]
    exact (call.moves (afterCalls calls)).consistent ih

lemma held_snoc_iff (call : Call ν) (node : ν) {owner : String} (differ : owner ≠ call.label) :
    (afterCalls (calls ++ [call])).activeNemesisOnNodes.get node = some owner ↔
      (afterCalls calls).activeNemesisOnNodes.get node = some owner := by
  rw [afterCalls_snoc]
  exact (call.moves (afterCalls calls)).held_iff node differ

lemma unrecorded_append {calls : List (Call ν)}
    (unused : ∀ node, (afterCalls calls).activeNemesisOnNodes.get node ≠ some label)
    {later : List (Call ν)} (differ : ∀ call ∈ later, call.label ≠ label) (node : ν) :
    (afterCalls (calls ++ later)).activeNemesisOnNodes.get node ≠ some label := by
  induction later using List.reverseRecOn with
  | nil =>
    rw [append_nil]
    exact unused node
  | append_singleton earlier call ih =>
    have own : label ≠ call.label := (differ call (by simp)).symm
    rw [← append_assoc, ne_eq, held_snoc_iff _ _ _ own]
    exact ih fun other listed => differ other (mem_append_left _ listed)

/-- After any history, and after any call that follows it, table and marks are in step; the call
leaves the records of other labels alone; and a node it selects was free. -/
theorem calls_respect_holders (calls : List (Call ν)) (call : Call ν) :
    (afterCalls calls).Consistent ∧ (afterCalls (calls ++ [call])).Consistent ∧
      (∀ node owner, owner ≠ call.label →
        (afterCalls calls).activeNemesisOnNodes.get node = some owner →
        (afterCalls (calls ++ [call])).activeNemesisOnNodes.get node = some owner) ∧
      ∀ selection node after, call.operation = .select selection →
        EStateM.run call.run (afterCalls calls) = .ok (.node node) after →
        (afterCalls calls).activeNemesisOnNodes.get node = none ∧
          (afterCalls calls).runningNemesis node = none ∧
          after.activeNemesisOnNodes.get node = some call.label := by
  have consistent := afterCalls_consistent calls
  refine ⟨consistent, afterCalls_consistent _, ?_, ?_⟩
  · intro node owner differ held
    exact (held_snoc_iff calls call node differ).mpr held
  · intro selection node after selects ran
    rw [Call.run, selects] at ran
    obtain ⟨selected, returned, same⟩ := map_ok_iff.mp ran
    obtain rfl := Answer.node.inj same
    rcases selectTargetNode_cases call.tester selection call.label (afterCalls calls) with
      ⟨-, error, raised⟩ | ⟨picked, listed, held⟩
    · rw [raised] at returned
      cases returned
    · rw [held] at returned
      obtain ⟨rfl, rfl⟩ := EStateM.Result.ok.inj returned
      have free := (mem_candidates_iff.mp listed).1.free
      have unmarked := (afterCalls calls).consistent_iff.mp consistent picked
      exact ⟨free, unmarked ▸ free, Dict.get_set_self _ _ _⟩

/-! ## What is selected -/

/-- Every node the selection can return is a candidate and in the list, when one is given. -/
def ReturnsOnlyWanted (tester : Tester ν) (selection : Selection ν) (state : Allocator ν)
    (select : Locked ν ν) : Prop :=
  ∀ node after, select.run state = .ok node after →
    Candidate tester selection state node ∧ ∀ nodes ∈ selection.nodeList, node ∈ nodes

/-- A given empty list is read as no list, so it matters when some node is a candidate. -/
def NoCandidateForEmptyList (tester : Tester ν) (selection : Selection ν)
    (state : Allocator ν) : Prop :=
  selection.nodeList = some [] → ∀ node, ¬ Candidate tester selection state node

lemma selectTargetNode_returnsOnlyWanted_iff (selection : Selection ν) (state : Allocator ν)
    (label : String) :
    ReturnsOnlyWanted tester selection state (selectTargetNode tester selection label) ↔
      NoCandidateForEmptyList tester selection state := by
  rcases selectTargetNode_cases tester selection label state with
    ⟨none, error, raised⟩ | ⟨selected, listed, ran⟩
  · apply iff_of_true
    · intro node after returned
      rw [raised] at returned
      cases returned
    · intro empty node candidate
      have member : node ∈ candidates tester selection state := by
        refine mem_candidates_iff.mpr ⟨candidate, ?_⟩
        intro nodes given nonempty
        rw [empty] at given
        exact absurd (Option.some.inj given).symm nonempty
      rw [none] at member
      cases member
  · obtain ⟨candidate, kept⟩ := mem_candidates_iff.mp listed
    constructor
    · intro wanted empty
      exact nomatch (wanted selected _ ran).2 [] empty
    · intro harmless node after returned
      rw [ran] at returned
      obtain ⟨rfl, -⟩ := EStateM.Result.ok.inj returned
      refine ⟨candidate, ?_⟩
      intro nodes given
      apply kept nodes given
      rintro rfl
      exact harmless given selected candidate

/-- Both ways to select return only wanted nodes exactly if an empty list that is given meets no
candidate. -/
theorem selections_wanted_iff (tester : Tester ν) (selection : Selection ν) (state : Allocator ν)
    (label : String) :
    (ReturnsOnlyWanted tester selection state (selectTargetNode tester selection label) ↔
      NoCandidateForEmptyList tester selection state) ∧
    (ReturnsOnlyWanted tester selection.ofRunNemesis state (runNemesis tester selection label) ↔
      NoCandidateForEmptyList tester selection.ofRunNemesis state) :=
  ⟨selectTargetNode_returnsOnlyWanted_iff tester selection state label,
    selectTargetNode_returnsOnlyWanted_iff tester selection.ofRunNemesis state label⟩

def emptyListSelection : Selection Unit :=
  ⟨.dataNodes, false, .any, none, none, false, some [], ⟨id, fun _ => .refl _⟩, 0⟩

/-- A list without nodes selects the node of the pool. -/
theorem selected_from_empty_list : ∃ after,
    (selectTargetNode ⟨[()], fun _ => ⟨"db-1", false, 0, 0, false⟩⟩ emptyListSelection "n").run
      Allocator.initial = .ok () after ∧ emptyListSelection.nodeList = some [] :=
  ⟨_, rfl, rfl⟩

end Sct.Nemesis
