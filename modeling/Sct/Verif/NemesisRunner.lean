import Sct.Nemesis.Runner
import Sct.Verif.NodeAllocator

/-!
# What a run of a nemesis leaves

However a run ends, its `finally` gives up every node held under its label, whichever way the node
came to be held, and forgets the target and the label. The calls a run makes to the allocator are
all under its own label, and a call changes no record of another.
-/

open Sct.Effect
open List
open EStateM (run_bind run_get run_set)

namespace Sct.Nemesis

variable {ν : Type} [DecidableEq ν]

def Stretch.otherCalls (stretch : Stretch ν) : List (Call ν) :=
  stretch.steps.filterMap fun step => match step with
    | .other call => some call
    | _ => none

namespace Execution

variable (execution : Execution ν)

def stretches : List (Stretch ν) :=
  [execution.entering, execution.disruption, execution.handling, execution.recording,
    execution.leaving]

def otherCalls : List (Call ν) :=
  execution.waiting ++ execution.naming ++ execution.stretches.flatMap Stretch.otherCalls ++
    execution.parting

/-- The label of a run is new, and no other nemesis uses it. -/
structure Unique (runner : NemesisRunner ν) : Prop where
  unused : ∀ node, runner.allocator.activeNemesisOnNodes.get node ≠ some execution.label
  differ : ∀ call ∈ execution.otherCalls, call.label ≠ execution.label

/-- The calls to the allocator since a run began: its own and those of others. -/
def Extends (before runner : NemesisRunner ν) : Prop :=
  ∃ calls, runner.history = before.history ++ calls ∧
    ∀ call ∈ calls, call.label = execution.label ∨ call ∈ execution.otherCalls

def Running (before runner : NemesisRunner ν) : Prop :=
  runner.currentDisruption = some execution.label ∧ execution.Extends before runner

structure Over (before runner : NemesisRunner ν) : Prop where
  target : runner.targetNode = none
  disruption : runner.currentDisruption = none
  unrecorded : ∀ node, runner.allocator.activeNemesisOnNodes.get node ≠ some execution.label
  calls : execution.Extends before runner

variable {execution} {before : NemesisRunner ν}

omit [DecidableEq ν] in
lemma Extends.append {runner after : NemesisRunner ν} (since : execution.Extends before runner)
    {calls : List (Call ν)}
    (known : ∀ call ∈ calls, call.label = execution.label ∨ call ∈ execution.otherCalls)
    (more : after.history = runner.history ++ calls) : execution.Extends before after := by
  obtain ⟨earlier, made, all⟩ := since
  refine ⟨earlier ++ calls, ?_, fun call listed => ?_⟩
  · rw [more, made, append_assoc]
  · exact (mem_append.mp listed).elim (all call) (known call)

end Execution

section Running

variable {execution : Execution ν} {before : NemesisRunner ν} (tester : Tester ν)

lemma callAllocator_running (operation : Operation ν) :
    Keeps (execution.Running before) (callAllocator tester operation) := by
  intro runner running
  have own : runner.label = execution.label := by
    rw [NemesisRunner.label, running.1, Option.getD_some]
  have called : execution.Running before
      { runner with history := runner.history ++ [⟨runner.label, tester, operation⟩] } := by
    refine ⟨running.1, running.2.append (fun call listed => ?_) rfl⟩
    obtain rfl := mem_singleton.mp listed
    exact .inl own
  unfold callAllocator
  rw [run_bind, run_get]
  simp only
  rw [run_bind, run_set]
  simp only
  cases EStateM.run (Call.run ⟨runner.label, tester, operation⟩) runner.allocator with
  | ok answer after => exact called
  | error exc after => exact called

omit [DecidableEq ν] in
lemma writeTargetNode_running (node : Option ν) :
    Keeps (execution.Running before) (writeTargetNode node) :=
  keeps_modify _ fun _ running => running

omit [DecidableEq ν] in
lemma others_running {calls : List (Call ν)}
    (known : ∀ call ∈ calls, call ∈ execution.otherCalls) :
    Keeps (execution.Running before) (others calls) :=
  keeps_modify _ fun _ running =>
    ⟨running.1, running.2.append (fun call listed => .inr (known call listed)) rfl⟩

variable (selection : Selection ν)

lemma selectTarget_running :
    Keeps (execution.Running before) (selectTarget tester selection) := by
  apply keeps_bind keeps_get
  intro runner
  apply keeps_bind (callAllocator_running tester _)
  intro answer
  cases answer with
  | node selected => exact writeTargetNode_running _
  | flag value => exact keeps_pure _
  | none => exact keeps_pure _

lemma setTargetNode_running :
    Keeps (execution.Running before) (setTargetNode tester selection) := by
  apply keeps_bind keeps_get
  intro runner
  simp only
  split
  · exact selectTarget_running tester selection
  · rename_i node _
    apply keeps_bind (callAllocator_running tester (.unset node))
    intro _
    apply keeps_bind (writeTargetNode_running none)
    intro _
    exact selectTarget_running tester selection

lemma perform_running {step : Step ν}
    (known : ∀ call, step = .other call → call ∈ execution.otherCalls) :
    Keeps (execution.Running before) step.perform := by
  cases step with
  | setTargetNode tester selection => exact setTargetNode_running tester selection
  | switchTargetNode tester node =>
    apply keeps_bind keeps_get
    intro runner
    apply keeps_bind (callAllocator_running tester _)
    intro _
    exact writeTargetNode_running _
  | selectTarget tester selection => exact selectTarget_running tester selection
  | forgetTarget => exact writeTargetNode_running none
  | own tester operation =>
    apply keeps_bind (callAllocator_running tester operation)
    intro _
    exact keeps_pure _
  | setPoolType poolType => exact keeps_modify _ fun _ running => running
  | other call =>
    apply others_running
    intro listed member
    obtain rfl := mem_singleton.mp member
    exact known listed rfl

lemma play_running {stretch : Stretch ν} (listed : stretch ∈ execution.stretches) :
    Keeps (execution.Running before) stretch.play := by
  have known : ∀ call ∈ stretch.otherCalls, call ∈ execution.otherCalls := by
    intro call own
    have among := mem_flatMap.mpr ⟨stretch, listed, own⟩
    exact mem_append_left _ (mem_append_right _ among)
  have steps : Keeps (execution.Running before)
      (forM stretch.steps fun step => tryCatch step.perform fun _ => pure ()) := by
    apply meets_forM
    intro step listed
    apply keeps_tryCatch
    · apply perform_running
      rintro call rfl
      exact known call (mem_filterMap.mpr ⟨_, listed, rfl⟩)
    · exact fun _ => keeps_pure _
  apply keeps_bind steps
  intro _
  cases stretch.raised with
  | none => exact keeps_pure _
  | some exc => exact keeps_throw _

lemma handleRaised_running (raised : Raised) :
    Keeps (execution.Running before) (handleRaised execution raised) := by
  have handled : Keeps (execution.Running before) execution.handling.play :=
    play_running (by simp [Execution.stretches])
  have marked (skipped : Bool) : Keeps (execution.Running before) (markSkipped skipped) :=
    keeps_modify _ fun _ running => running
  have skipping (skipped : Bool) (exc : Raised) : Keeps (execution.Running before) (do
      execution.handling.play
      markSkipped skipped
      pure (some exc)) := by
    apply keeps_bind handled
    intro _
    exact keeps_bind (marked skipped) fun _ => keeps_pure _
  cases raised with
  | baseException message => exact keeps_throw _
  | exception message =>
    apply keeps_bind handled
    intro _
    exact keeps_bind (keeps_modify _ fun _ running => running) fun _ => keeps_pure _
  | killNemesis => exact skipping _ _
  | unsupportedNemesis message => exact skipping _ _
  | methodVersionNotFound message => exact skipping _ _

lemma disruptAndRecord_running :
    Keeps (execution.Running before) (disruptAndRecord execution) := by
  have disrupted : Keeps (execution.Running before) execution.disruption.play :=
    play_running (by simp [Execution.stretches])
  have recorded : Keeps (execution.Running before) execution.recording.play :=
    play_running (by simp [Execution.stretches])
  apply keeps_ensuring
  · exact keeps_tryCatch (keeps_bind disrupted fun _ => keeps_pure _) handleRaised_running
  · exact keeps_bind (keeps_modify _ fun _ running => running) fun _ => recorded

lemma runSelected_running : Keeps (execution.Running before) (runSelected execution) := by
  have named : Keeps (execution.Running before) (others execution.naming) := by
    apply others_running
    intro call listed
    exact mem_append_left _ (mem_append_left _ (mem_append_right _ listed))
  have entered : Keeps (execution.Running before) execution.entering.play :=
    play_running (by simp [Execution.stretches])
  have left : Keeps (execution.Running before) execution.leaving.play :=
    play_running (by simp [Execution.stretches])
  apply keeps_bind named
  intro _
  apply keeps_bind (setTargetNode_running _ _)
  intro _
  refine keeps_ensuring ?_ left
  refine keeps_bind (keeps_modify _ fun _ running => running) fun _ => ?_
  apply keeps_bind entered
  intro _
  exact disruptAndRecord_running

end Running

/-! ## Every exit -/

lemma unsetFromAll_run (label : String) (tester : Tester ν) (state : Allocator ν) :
    ∃ after, EStateM.run (Call.run ⟨label, tester, .unsetFromAll⟩) state = .ok .none after ∧
      ∀ node, after.activeNemesisOnNodes.get node ≠ some label := by
  obtain ⟨after, ran, cleared⟩ := unsetRunningNemesisFromAllNodes_clears label state
  exact ⟨after, map_ok_iff.mpr ⟨(), ran, rfl⟩, cleared⟩

lemma releaseNodes_run (execution : Execution ν) (runner : NemesisRunner ν) :
    ∃ after, (releaseNodes execution).run runner = .ok () after ∧ after.targetNode = none ∧
      after.currentDisruption = none ∧
      after.history = runner.history ++
        [⟨runner.label, execution.tester, .unsetFromAll⟩] ++ execution.parting := by
  obtain ⟨cleared, ran, _⟩ := unsetFromAll_run runner.label execution.tester runner.allocator
  let called : NemesisRunner ν :=
    { runner with
      targetNodePoolType := .dataNodes
      history := runner.history ++ [⟨runner.label, execution.tester, .unsetFromAll⟩] }
  have released : (callAllocator execution.tester .unsetFromAll).run
      { runner with targetNodePoolType := .dataNodes } = .ok .none called := by
    unfold callAllocator
    rw [run_bind, run_get]
    simp only
    rw [run_bind, run_set]
    have same : EStateM.run (Call.run ⟨runner.label, execution.tester, .unsetFromAll⟩)
        runner.allocator = .ok .none cleared := ran
    simp only [NemesisRunner.label, NemesisRunner.allocator] at same ⊢
    rw [same]
    rfl
  refine ⟨{ called with
    targetNode := none
    currentDisruption := none
    history := called.history ++ execution.parting }, ?_, rfl, rfl, rfl⟩
  unfold releaseNodes
  rw [run_bind, EStateM.run_modify]
  simp only
  rw [run_bind, released]
  rfl

section Exits

variable {execution : Execution ν} {before : NemesisRunner ν}

lemma releaseNodes_over (differ : ∀ call ∈ execution.otherCalls, call.label ≠ execution.label) :
    Meets (execution.Running before) (releaseNodes execution) (fun _ => execution.Over before)
      fun _ => execution.Over before := by
  intro runner running
  have own : runner.label = execution.label := by
    rw [NemesisRunner.label, running.1, Option.getD_some]
  have parting : ∀ call ∈ execution.parting, call ∈ execution.otherCalls :=
    fun call listed => mem_append_right _ listed
  obtain ⟨after, ran, target, disruption, history⟩ := releaseNodes_run execution runner
  rw [ran]
  refine ⟨target, disruption, fun node => ?_, ?_⟩
  · rw [NemesisRunner.allocator, history, own]
    apply unrecorded_append
    · intro node
      obtain ⟨after, ran, cleared⟩ :=
        unsetFromAll_run execution.label execution.tester (afterCalls runner.history)
      rw [afterCalls_snoc, Call.step, ran]
      exact cleared node
    · exact fun call listed => differ call (parting call listed)
  · refine running.2.append (fun call listed => ?_) (history.trans (append_assoc _ _ _))
    rcases mem_append.mp listed with released | other
    · obtain rfl := mem_singleton.mp released
      exact .inl own
    · exact .inr (parting call other)

variable {holds : NemesisRunner ν → Prop}

omit [DecidableEq ν] in
lemma raiseError_keeps
    (kept : ∀ runner skips, holds runner → holds { runner with consecutiveSkips := skips })
    (raised : Option Raised) : Keeps holds (raiseError execution raised) := by
  have counted (exc : Raised) : Keeps holds (do
      let name := baseDisruptionName execution.label
      modify fun runner =>
        let skips := (runner.consecutiveSkips.get name).getD 0 + 1
        { runner with consecutiveSkips := runner.consecutiveSkips.set name skips }
      throw exc : Acts ν Unit) :=
    keeps_bind (keeps_modify _ fun runner held => kept runner _ held) fun _ => keeps_throw _
  cases raised with
  | none => exact keeps_modify _ fun runner held => kept runner _ held
  | some exc =>
    cases exc with
    | killNemesis => exact keeps_throw _
    | unsupportedNemesis message => exact counted _
    | methodVersionNotFound message => exact counted _
    | exception message => exact counted _
    | baseException message => exact counted _

omit [DecidableEq ν] in
lemma checkHealth_keeps : Keeps holds (checkHealth execution) := by
  apply keeps_bind keeps_get
  intro runner
  split
  · exact keeps_pure _
  · cases execution.health with
    | none => exact keeps_pure _
    | some exc => exact keeps_throw _

/-- Between runs there is no target and no label. -/
def NemesisRunner.Idle (runner : NemesisRunner ν) : Prop :=
  runner.targetNode = none ∧ runner.currentDisruption = none

lemma executeNemesis_idle : Keeps NemesisRunner.Idle (executeNemesis execution) := by
  have anything : Meets (fun _ => True) (runSelected execution) (fun _ _ => True)
      fun _ _ => True := meets_of (fun _ _ _ _ _ => trivial) fun _ _ _ _ _ => trivial
  have released : Meets (fun _ => True) (releaseNodes execution) (fun _ => NemesisRunner.Idle)
      fun _ => NemesisRunner.Idle := by
    intro runner _
    obtain ⟨after, ran, target, disruption, _⟩ := releaseNodes_run execution runner
    rw [ran]
    exact ⟨target, disruption⟩
  have waited : Keeps NemesisRunner.Idle (others execution.waiting) :=
    keeps_modify _ fun _ idle => idle
  apply keeps_bind waited
  intro _
  apply keeps_bind checkHealth_keeps
  intro _
  have labelled : Meets NemesisRunner.Idle (nameDisruption execution) (fun _ _ => True)
      fun _ => NemesisRunner.Idle := meets_modify _ fun _ _ => trivial
  apply meets_bind labelled
  intro _
  apply meets_bind (meets_ensuring anything released)
  intro raised
  exact raiseError_keeps (fun _ _ idle => idle) raised

lemma executeNemesis_over (idle : before.Idle) (unique : execution.Unique before) :
    Meets (fun runner => runner = before) (executeNemesis execution)
      (fun _ => execution.Over before) fun _ => execution.Over before := by
  have waited : Meets (fun runner => runner = before) (others execution.waiting)
      (fun _ runner => execution.Over before runner) fun _ => execution.Over before := by
    apply meets_modify
    rintro runner rfl
    have known : ∀ call ∈ execution.waiting, call ∈ execution.otherCalls := fun call listed =>
      mem_append_left _ (mem_append_left _ (mem_append_left _ listed))
    refine ⟨idle.1, idle.2, ?_, execution.waiting, rfl, fun call listed => .inr (known call listed)⟩
    exact unrecorded_append unique.unused fun call listed => unique.differ call (known call listed)
  apply meets_bind waited
  intro _
  apply meets_bind checkHealth_keeps
  intro _
  have labelled : Meets (execution.Over before) (nameDisruption execution)
      (fun _ => execution.Running before) fun _ => execution.Over before :=
    meets_modify _ fun _ ended => ⟨rfl, ended.calls⟩
  apply meets_bind labelled
  intro _
  apply meets_bind (meets_ensuring runSelected_running (releaseNodes_over unique.differ))
  intro raised
  exact raiseError_keeps (fun _ _ ended => ⟨ended.target, ended.disruption, ended.unrecorded,
    ended.calls⟩) raised

end Exits

lemma afterRuns_idle (filterSeed : Bool) (history : List (Call ν))
    (executions : List (Execution ν)) :
    ((NemesisRunner.initial filterSeed history).afterRuns executions).Idle := by
  induction executions using List.reverseRecOn with
  | nil => exact ⟨rfl, rfl⟩
  | append_singleton earlier execution ih =>
    rw [NemesisRunner.afterRuns, foldl_append, foldl_cons, foldl_nil]
    have ended := @executeNemesis_idle _ _ execution _ ih
    revert ended
    unfold NemesisRunner.afterRuns
    generalize (executeNemesis execution).run _ = result
    cases result <;> exact id

/-- What is true after a run: nothing is held under its label or marked with it, there is no target
and no label, and none of the calls it made changed a record of another label. -/
structure Execution.Releases (execution : Execution ν) (before after : NemesisRunner ν) : Prop where
  unrecorded : ∀ node, after.allocator.activeNemesisOnNodes.get node ≠ some execution.label
  unmarked : ∀ node, after.allocator.runningNemesis node ≠ some execution.label
  target : after.targetNode = none
  disruption : after.currentDisruption = none
  others : ∃ calls, after.history = before.history ++ calls ∧
    (∀ call ∈ calls, call.label = execution.label ∨ call ∈ execution.otherCalls) ∧
    ∀ earlier call later, calls = earlier ++ call :: later → call.label = execution.label →
      ∀ node owner, owner ≠ execution.label →
        ((afterCalls (before.history ++ earlier ++ [call])).activeNemesisOnNodes.get node =
            some owner ↔
          (afterCalls (before.history ++ earlier)).activeNemesisOnNodes.get node = some owner)

/-- After earlier runs, a run with a label of its own releases everything however it ends. -/
theorem executeNemesis_releases (filterSeed : Bool) (history : List (Call ν))
    (earlier : List (Execution ν)) (execution : Execution ν)
    (unique : execution.Unique ((NemesisRunner.initial filterSeed history).afterRuns earlier)) :
    execution.Releases ((NemesisRunner.initial filterSeed history).afterRuns earlier)
      (exitState ((executeNemesis execution).run
        ((NemesisRunner.initial filterSeed history).afterRuns earlier))) := by
  have meets := executeNemesis_over (afterRuns_idle filterSeed history earlier) unique
  have ended : execution.Over ((NemesisRunner.initial filterSeed history).afterRuns earlier)
      (exitState ((executeNemesis execution).run
        ((NemesisRunner.initial filterSeed history).afterRuns earlier))) := by
    cases ran : (executeNemesis execution).run
        ((NemesisRunner.initial filterSeed history).afterRuns earlier) with
    | ok value after => exact meets.of_ok rfl ran
    | error exc after => exact meets.of_error rfl ran
  obtain ⟨calls, made, known⟩ := ended.calls
  refine ⟨ended.unrecorded, fun node => ?_, ended.target, ended.disruption, calls, made, known, ?_⟩
  · rw [NemesisRunner.allocator, ← (Allocator.consistent_iff _).mp (afterCalls_consistent _) node]
    exact ended.unrecorded node
  · intro first call later _ own node owner differ
    rw [← own] at differ
    exact held_snoc_iff _ call node differ

def fourNodes : Tester (Fin 4) where
  allDbNodes := [0, 1, 2, 3]
  info node := ⟨"node-" ++ toString node.val, false, 0, 0, false⟩

def firstFree : Selection (Fin 4) where
  poolType := .dataNodes
  filterSeed := false
  isSeed := .defaultValue
  dcIdx := none
  rack := none
  allowOnlyLastNodeInRack := false
  nodeList := none
  order := ⟨id, fun nodes => .refl nodes⟩
  draw := 0

/-- A disruption that switches its target, marks a new node, forgets its target and fails, while
another nemesis takes a node. -/
def switchingRun : Execution (Fin 4) where
  targetPoolType := .dataNodes
  label := "AddRemoveDc-11aa22bb"
  waiting := [⟨"Repair-33cc44dd", fourNodes, .set 3⟩]
  health := none
  naming := []
  tester := fourNodes
  selection := firstFree
  entering := ⟨[], none⟩
  disruption := ⟨[.switchTargetNode fourNodes 1, .other ⟨"Repair-33cc44dd", fourNodes, .set 0⟩,
    .own fourNodes (.set 2), .forgetTarget], some (.exception "no quorum")⟩
  critical := false
  handling := ⟨[], none⟩
  recording := ⟨[], none⟩
  leaving := ⟨[], none⟩
  parting := []

/-- The nodes the other nemesis took are all that is held when the run is over. -/
theorem switchingRun_releases :
    switchingRun.Releases (NemesisRunner.initial false [])
        (exitState ((executeNemesis switchingRun).run (NemesisRunner.initial false []))) ∧
      (exitState ((executeNemesis switchingRun).run
        (NemesisRunner.initial false []))).allocator.activeNemesisOnNodes.entries =
          [(3, "Repair-33cc44dd"), (0, "Repair-33cc44dd")] := by
  have unique : switchingRun.Unique ((NemesisRunner.initial false []).afterRuns []) := by
    refine ⟨fun node held => (nomatch held), ?_⟩
    decide
  exact ⟨executeNemesis_releases false [] [] switchingRun unique, by decide⟩

end Sct.Nemesis
