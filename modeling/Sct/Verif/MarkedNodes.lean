import Sct.Verif.NodeAllocator

/-!
# Marking several nodes

While `nodes_running_nemesis` marks nodes, unmarks them or runs its body, the table holds its label
at the marked nodes and is as before at all others that nobody else touches. Marking and unmarking
change the list of marked nodes in step with the table, so at the end the table is as before.
-/

open Sct.Effect
open List
open EStateM (run_bind)

namespace Sct.Nemesis

variable {ν : Type} [DecidableEq ν]

/-- The step leaves the record of the node alone. -/
def Leaves (step : Allocator ν → Allocator ν) (node : ν) : Prop :=
  ∀ state, (step state).activeNemesisOnNodes.get node = state.activeNemesisOnNodes.get node

/-- Concurrent operations on other nodes than the given ones. -/
structure OtherThreads (nodes : List ν) where
  interference : Interference ν
  elsewhere : ∀ node ∈ nodes, ∀ time, Leaves (interference time) node

/-- A body, with what other threads do while it runs, that works on other nodes. -/
structure Body (nodes : List ν) (ω : Type) where
  run : Nat × Allocator ν → ω × (Nat × Allocator ν)
  elsewhere : ∀ node ∈ nodes, ∀ time, Leaves (fun state => (run (time, state)).2.2) node

/-- At the untouched nodes, the table is the one before with the label at the marked ones. -/
structure Marked (label : String) (untouched : ν → Prop) (before : Allocator ν) (marked : List ν)
    (state : Allocator ν) : Prop where
  distinct : marked.Nodup
  free : ∀ node ∈ marked, before.activeNemesisOnNodes.get node = none
  table : ∀ node, untouched node → state.activeNemesisOnNodes.get node =
    if node ∈ marked then some label else before.activeNemesisOnNodes.get node

omit [DecidableEq ν] in
lemma contended_run {α : Type} {others : Interference ν} {operation : Locked ν α} {time : Nat}
    {state after : Allocator ν} {value : α} (ran : operation.run (others time state) = .ok value after) :
    (operation.contended others).run (time, state) = .ok value (time + 1, after) := by
  unfold Locked.contended EStateM.run at *
  simp only [ran]

section

variable {label : String} {untouched : ν → Prop} {before state : Allocator ν} {marked : List ν}
  {others : Interference ν} {node : ν}

lemma Marked.leaves (entry : Marked label untouched before marked state)
    {step : Allocator ν → Allocator ν} (spared : ∀ node, untouched node → Leaves step node) :
    Marked label untouched before marked (step state) := by
  refine ⟨entry.distinct, entry.free, ?_⟩
  intro node kept
  rw [spared node kept state]
  exact entry.table node kept

variable (tester : Tester ν) (time : Nat)
  (spared : ∀ node, untouched node → ∀ time, Leaves (others time) node)

include spared

/-- One node is marked, or refused and nothing else happens. -/
lemma Marked.set (entry : Marked label untouched before marked state) (kept : untouched node) :
    ∃ added after, ((setRunningNemesis tester node label).contended others).run (time, state) =
        .ok added (time + 1, after) ∧
      Marked label untouched before (if added then marked ++ [node] else marked) after := by
  have now := entry.leaves fun node kept => spared node kept time
  rcases setRunningNemesis_cases tester node label (others time state) with
    ⟨absent, ran⟩ | ⟨message, ran⟩
  · refine ⟨true, _, contended_run ran, ?_⟩
    have entries := now.table node kept
    rw [absent] at entries
    split at entries
    · cases entries
    · rename_i unmarked
      refine ⟨?_, ?_, ?_⟩
      · rw [← concat_eq_append]
        exact now.distinct.concat unmarked
      · intro other listed
        rcases mem_append.mp listed with old | new
        · exact now.free other old
        · exact mem_singleton.mp new ▸ entries.symm
      · intro other keptOther
        rw [Allocator.hold, Dict.get_set, now.table other keptOther]
        by_cases same : other = node <;> simp [same]
  · exact ⟨false, _, contended_run ran, now.distinct, now.free, now.table⟩

lemma Marked.unset (entry : Marked label untouched before (node :: marked) state)
    (kept : untouched node) :
    ∃ after, ((unsetRunningNemesis tester node label).contended others).run (time, state) =
        .ok () (time + 1, after) ∧ Marked label untouched before marked after := by
  have now := entry.leaves fun node kept => spared node kept time
  obtain ⟨fresh, distinct⟩ := nodup_cons.mp now.distinct
  have held : (others time state).activeNemesisOnNodes.get node = some label := by
    rw [now.table node kept, if_pos mem_cons_self]
  rcases unsetRunningNemesis_cases tester node label (others time state) with
    ⟨-, ran⟩ | ⟨foreign, -⟩
  · refine ⟨_, contended_run ran, distinct, ?_, ?_⟩
    · exact fun other listed => now.free other (mem_cons_of_mem node listed)
    · intro other keptOther
      rw [Allocator.release, Dict.get_erase, now.table other keptOther]
      by_cases same : other = node
      · rw [if_pos same, same, if_neg fresh, now.free node mem_cons_self]
      · simp [same]
  · exact absurd held foreign

lemma Marked.unsetAll (entry : Marked label untouched before marked state)
    (kept : ∀ node ∈ marked, untouched node) :
    ∃ time' after, (unsetAll others tester label marked).run (time, state) =
      .ok () (time', after) ∧ Marked label untouched before [] after := by
  induction marked generalizing time state with
  | nil => exact ⟨time, state, rfl, entry⟩
  | cons node rest ih =>
    obtain ⟨middle, ran, unmarked⟩ := entry.unset tester time spared (kept node mem_cons_self)
    obtain ⟨time', after, later, restored⟩ := ih (time + 1) unmarked fun other listed =>
      kept other (mem_cons_of_mem node listed)
    refine ⟨time', after, ?_, restored⟩
    show EStateM.run (_ >>= fun _ => Nemesis.unsetAll others tester label rest) _ = _
    rw [run_bind, ran]
    exact later

/-- The loop marks all nodes that are left, or raises with none marked. -/
lemma Marked.markNodes (entry : Marked label untouched before marked state) {nodes : List ν}
    (kept : ∀ node ∈ marked ++ nodes, untouched node) : ∃ time' after,
      (markNodes others tester label marked nodes).run (time, state) =
          .ok (marked ++ nodes) (time', after) ∧
        Marked label untouched before (marked ++ nodes) after ∨
      ∃ error, (markNodes others tester label marked nodes).run (time, state) =
          .error error (time', after) ∧ error.cls = .nemesisNodeAllocationError ∧
        Marked label untouched before [] after := by
  induction nodes generalizing time state marked with
  | nil =>
    rw [append_nil]
    exact ⟨time, state, Or.inl ⟨rfl, entry⟩⟩
  | cons node rest ih =>
    rw [Nemesis.markNodes, run_bind]
    obtain ⟨added, middle, ran, now⟩ := entry.set tester time spared (kept node (by simp))
    rw [ran]
    cases added with
    | true =>
      have later := ih (time + 1) now (by simpa using kept)
      rw [if_pos rfl, append_assoc] at later
      exact later
    | false =>
      obtain ⟨time', after, undone, restored⟩ := now.unsetAll tester (time + 1) spared
        fun other listed => kept other (mem_append_left _ listed)
      refine ⟨time', after, Or.inr ⟨alreadyReserved tester node label, ?_, rfl, restored⟩⟩
      simp only [Bool.false_eq_true, if_false, run_bind] at undone ⊢
      rw [undone]
      rfl

end

/-- The records of all nodes that nothing else touches are as before. -/
def Restored (untouched : ν → Prop) (before after : Allocator ν) : Prop :=
  ∀ node, untouched node →
    after.activeNemesisOnNodes.get node = before.activeNemesisOnNodes.get node

/-- Whatever was allocated, whatever the body does and raises, and whatever other threads do on
other nodes: all given nodes are held when the body starts, or the allocation error is raised; and
at the end the table is as before. -/
theorem nodesRunningNemesis_all_or_nothing {nodes : List ν} {ω : Type} (others : OtherThreads nodes)
    (body : Body nodes ω) (tester : Tester ν) (label : String) (time : Nat) (state : Allocator ν) :
    (∃ error time' after,
      (nodesRunningNemesis others.interference tester nodes label body.run).run (time, state) =
          .error error (time', after) ∧ error.cls = .nemesisNodeAllocationError ∧
        Restored (fun node => ∀ time, Leaves (others.interference time) node) state after) ∨
    ∃ entered outcome time' after,
      (markNodes others.interference tester label [] nodes).run (time, state) = .ok nodes entered ∧
        (∀ node ∈ nodes, entered.2.activeNemesisOnNodes.get node = some label) ∧
        (nodesRunningNemesis others.interference tester nodes label body.run).run (time, state) =
          .ok outcome (time', after) ∧ outcome = (body.run entered).1 ∧
        Restored (fun node => (∀ time, Leaves (others.interference time) node) ∧
          ∀ time, Leaves (fun state => (body.run (time, state)).2.2) node) state after := by
  have start : Marked label (fun node => ∀ time, Leaves (others.interference time) node) state []
      state := ⟨nodup_nil, nofun, fun _ _ => (if_neg not_mem_nil).symm⟩
  obtain ⟨time₁, entered, ⟨ran, marked⟩ | ⟨error, ran, cls, restored⟩⟩ :=
    start.markNodes tester time (fun _ => id) others.elsewhere
  · apply Or.inr
    rw [nil_append] at ran marked
    have held (node : ν) (listed : node ∈ nodes) :
        entered.activeNemesisOnNodes.get node = some label := by
      rw [marked.table node (others.elsewhere node listed), if_pos listed]
    -- The body runs with all nodes marked, and leaves them so.
    have inside : Marked label (fun node => (∀ time, Leaves (others.interference time) node) ∧
        ∀ time, Leaves (fun state => (body.run (time, state)).2.2) node) state nodes entered :=
      ⟨marked.distinct, marked.free, fun node kept => marked.table node kept.1⟩
    have done := inside.leaves fun node kept => kept.2 time₁
    obtain ⟨time₂, after, undone, restored⟩ := done.unsetAll tester (body.run (time₁, entered)).2.1
      (fun _ kept => kept.1) fun node listed =>
        ⟨others.elsewhere node listed, body.elsewhere node listed⟩
    refine ⟨(time₁, entered), _, time₂, after, ran, held, ?_, rfl, fun node kept =>
      (restored.table node kept).trans (if_neg not_mem_nil)⟩
    have bodyRan : (modifyGet body.run : Contended ν ω).run (time₁, entered) =
        .ok (body.run (time₁, entered)).1 (body.run (time₁, entered)).2 := rfl
    rw [nodesRunningNemesis, run_bind, ran]
    simp only [run_bind, bodyRan, undone, EStateM.run_pure]
  · refine Or.inl ⟨error, time₁, entered, ?_, cls, fun node kept =>
      (restored.table node kept).trans (if_neg not_mem_nil)⟩
    rw [nodesRunningNemesis, run_bind, ran]

/-! A run beside another thread that marks node 2, with a body that unmarks node 3. -/

def markingElsewhere : OtherThreads [0, 1] where
  interference _ state := state.hold 2 "Drain"
  elsewhere node listed _ state := by
    have other : node ≠ 2 := by
      rintro rfl
      simp at listed
    exact (Dict.get_set _ _ _ _).trans (if_neg other)

def unmarkingElsewhere : Body [0, 1] String where
  run entered := ("restarted", entered.1, entered.2.release 3)
  elsewhere node listed _ state := by
    have other : node ≠ 3 := by
      rintro rfl
      simp at listed
    exact (Dict.get_erase _ _ _).trans (if_neg other)

def plainNodes : Tester Nat := ⟨[0, 1, 2, 3], fun node => ⟨toString node, false, 0, 0, false⟩⟩

theorem twoNodes_marked_and_unmarked : ∃ time after,
    (nodesRunningNemesis markingElsewhere.interference plainNodes [0, 1] "RollingRestart"
        unmarkingElsewhere.run).run (0, Allocator.initial) = .ok "restarted" (time, after) ∧
      ∀ node ∈ [0, 1], after.activeNemesisOnNodes.get node = none := by
  rcases nodesRunningNemesis_all_or_nothing markingElsewhere unmarkingElsewhere plainNodes
    "RollingRestart" 0 Allocator.initial with
    ⟨error, time, after, raised, -⟩ | ⟨entered, outcome, time, after, -, -, ran, done, restored⟩
  · cases raised
  · rw [done] at ran
    refine ⟨time, after, ran, fun node listed => ?_⟩
    rw [restored node ⟨markingElsewhere.elsewhere node listed,
      unmarkingElsewhere.elsewhere node listed⟩]
    rfl

end Sct.Nemesis
