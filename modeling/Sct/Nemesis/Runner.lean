import Sct.Nemesis.NodeAllocator

/-!
# Running a nemesis

`execute_nemesis` of `NemesisRunner` in `sdcm/nemesis/__init__.py`, with the operations on its
target. Other nemeses use the same allocator meanwhile, so it is kept as the history of the calls
made to it. What a run meets on its way is given as lists of steps, each perhaps with a raise at its
end: a raise before that is caught.
-/

open Sct.Effect

namespace Sct.Nemesis

/-- What Python code can raise, as far as `execute_nemesis` tells it apart. -/
inductive Raised where
  | unsupportedNemesis (message : String)
  | methodVersionNotFound (message : String)
  /-- `KillNemesis`, which is no `Exception`. -/
  | killNemesis
  /-- Every other `Exception`. -/
  | exception (message : String)
  /-- What is no `Exception` either. -/
  | baseException (message : String)
  deriving DecidableEq, Repr

variable {ν : Type} [DecidableEq ν]

/-- The attributes of a `NemesisRunner`, and the history of its allocator. -/
structure NemesisRunner (ν : Type) where
  targetNode : Option ν
  currentDisruption : Option String
  targetNodePoolType : TargetPool
  filterSeed : Bool
  /-- `is_skipped` of the event of the current disruption. -/
  nemesisEventSkipped : Bool
  /-- `is_skipped` of `last_nemesis_event`, when there is one. -/
  lastNemesisSkipped : Bool
  consecutiveSkips : Dict String Nat
  errorList : List String
  /-- The calls made to the allocator so far, oldest first. -/
  history : List (Call ν)

namespace NemesisRunner

/-- A new runner, on an allocator with a history. -/
def initial (filterSeed : Bool) (history : List (Call ν)) : NemesisRunner ν where
  targetNode := none
  currentDisruption := none
  targetNodePoolType := .dataNodes
  filterSeed := filterSeed
  nemesisEventSkipped := false
  lastNemesisSkipped := false
  consecutiveSkips := Dict.empty
  errorList := []
  history := history

/-- `node_allocator`. -/
def allocator (runner : NemesisRunner ν) : Allocator ν := afterCalls runner.history

/-- The label the runner passes to the allocator. -/
def label (runner : NemesisRunner ν) : String := runner.currentDisruption.getD "None"

end NemesisRunner

abbrev Acts (ν : Type) := EStateM Raised (NemesisRunner ν)

/-! ## Targets -/

variable (tester : Tester ν)

/-- Call the allocator under the label of the runner. -/
def callAllocator (operation : Operation ν) : Acts ν (Answer ν) := do
  let runner ← get
  let call : Call ν := ⟨runner.label, tester, operation⟩
  set { runner with history := runner.history ++ [call] }
  match EStateM.run call.run runner.allocator with
  | .ok answer _ => pure answer
  | .error exc _ => throw (.exception exc.message)

/-- Assign `target_node`. -/
def writeTargetNode (node : Option ν) : Acts ν Unit :=
  modify fun runner => { runner with targetNode := node }

/-- Assign `target_node` what the allocator selects, from the pool of the runner. -/
def selectTarget (selection : Selection ν) : Acts ν Unit := do
  let runner ← get
  let wanted := { selection with
    poolType := runner.targetNodePoolType
    filterSeed := runner.filterSeed
    nodeList := none }
  match ← callAllocator tester (.select wanted) with
  | .node node => writeTargetNode (some node)
  | _ => pure ()

/-- `set_target_node`; no caller passes it a label. -/
def setTargetNode (selection : Selection ν) : Acts ν Unit := do
  let runner ← get
  match runner.targetNode with
  | none => pure ()
  | some node => do
    let _ ← callAllocator tester (.unset node)
    writeTargetNode none
  selectTarget tester selection

/-- `NemesisRunner.switch_target_node`. -/
def switchTarget (node : ν) : Acts ν Unit := do
  let runner ← get
  let _ ← callAllocator tester (.switch runner.targetNode node)
  writeTargetNode (some node)

/-! ## What happens during a run -/

inductive Step (ν : Type) where
  | setTargetNode (tester : Tester ν) (selection : Selection ν)
  | switchTargetNode (tester : Tester ν) (node : ν)
  | selectTarget (tester : Tester ν) (selection : Selection ν)
  /-- `runner.target_node = None`, with the node still held. -/
  | forgetTarget
  /-- An operation of the allocator under the label of the runner: nodes that are added, given up
  or held for a while. -/
  | own (tester : Tester ν) (operation : Operation ν)
  | setPoolType (poolType : TargetPool)
  | other (call : Call ν)

def others (calls : List (Call ν)) : Acts ν Unit :=
  modify fun runner => { runner with history := runner.history ++ calls }

def Step.perform : Step ν → Acts ν Unit
  | .setTargetNode tester selection => Nemesis.setTargetNode tester selection
  | .switchTargetNode tester node => switchTarget tester node
  | .selectTarget tester selection => Nemesis.selectTarget tester selection
  | .forgetTarget => writeTargetNode none
  | .own tester operation => do
    let _ ← callAllocator tester operation
    pure ()
  | .setPoolType poolType => modify fun runner => { runner with targetNodePoolType := poolType }
  | .other call => others [call]

/-- A part of a run: what happens in it, and what it raises. -/
structure Stretch (ν : Type) where
  steps : List (Step ν)
  raised : Option Raised

def raising : Option Raised → Acts ν Unit
  | none => pure ()
  | some exc => throw exc

def Stretch.play (stretch : Stretch ν) : Acts ν Unit := do
  forM stretch.steps fun step => tryCatch step.perform fun _ => pure ()
  raising stretch.raised

/-- One run of a nemesis, with everything that happens during it. -/
structure Execution (ν : Type) where
  targetPoolType : TargetPool
  /-- What `unique_disruption_name` returns. -/
  label : String
  waiting : List (Call ν)
  /-- What `check_cluster_health` raises. -/
  health : Option Raised
  naming : List (Call ν)
  tester : Tester ν
  selection : Selection ν
  /-- Entering the contexts of the nemesis, the hook before it included. -/
  entering : Stretch ν
  disruption : Stretch ν
  critical : Bool
  handling : Stretch ν
  recording : Stretch ν
  leaving : Stretch ν
  parting : List (Call ν)

/-! ## Runs -/

/-- Mark the event of the disruption as skipped, or not. -/
def markSkipped (skipped : Bool) : Acts ν Unit :=
  modify fun runner => { runner with nemesisEventSkipped := skipped }

variable (execution : Execution ν)

/-- What the handlers make of what the disruption raised: the exception to raise at the end. -/
def handleRaised : Raised → Acts ν (Option Raised)
  | .baseException message => throw (.baseException message)
  | .exception message => do
    execution.handling.play
    modify fun runner => { runner with errorList := runner.errorList ++ [message] }
    pure none
  | .killNemesis => do
    execution.handling.play
    markSkipped (!execution.critical)
    pure (some .killNemesis)
  | exc => do
    execution.handling.play
    markSkipped true
    pure (some exc)

def disruptAndRecord : Acts ν (Option Raised) :=
  ensuring
    (tryCatch (do execution.disruption.play; pure none) (handleRaised execution)) do
      modify fun runner => { runner with lastNemesisSkipped := runner.nemesisEventSkipped }
      execution.recording.play

/-- What `execute_nemesis` protects by its `finally`. -/
def runSelected : Acts ν (Option Raised) := do
  others execution.naming
  setTargetNode execution.tester execution.selection
  ensuring (do
    markSkipped false
    execution.entering.play
    disruptAndRecord execution) execution.leaving.play

/-- The `finally` of `execute_nemesis`. -/
def releaseNodes : Acts ν Unit := do
  modify fun runner => { runner with targetNodePoolType := .dataNodes }
  let _ ← callAllocator execution.tester .unsetFromAll
  others execution.parting
  modify fun runner => { runner with targetNode := none, currentDisruption := none }

/-- `base_disruption_name` of a label: the text before its last hyphen. -/
def baseDisruptionName (label : String) : String :=
  if '-' ∈ label.toList then
    String.ofList ((label.toList.reverse.dropWhile (· ≠ '-')).tail.reverse)
  else label

/-- What is raised when the run is over. -/
def raiseError : Option Raised → Acts ν Unit
  | none => modify fun runner => { runner with consecutiveSkips := Dict.empty }
  | some .killNemesis => throw .killNemesis
  | some exc => do
    let name := baseDisruptionName execution.label
    modify fun runner =>
      let skips := (runner.consecutiveSkips.get name).getD 0 + 1
      { runner with consecutiveSkips := runner.consecutiveSkips.set name skips }
    throw exc

/-- The health check before a run; a skipped nemesis before it spares it. -/
def checkHealth : Acts ν Unit := do
  let runner ← get
  if runner.lastNemesisSkipped then pure () else raising execution.health

/-- Give the run its label and its pool. -/
def nameDisruption : Acts ν Unit :=
  modify fun runner => { runner with
    currentDisruption := some execution.label
    targetNodePoolType := execution.targetPoolType }

def executeNemesis : Acts ν Unit := do
  others execution.waiting
  checkHealth execution
  nameDisruption execution
  let raised ← ensuring (runSelected execution) (releaseNodes execution)
  raiseError execution raised

/-- The runner after runs, one after the other, however they ended. -/
def NemesisRunner.afterRuns (runner : NemesisRunner ν) (executions : List (Execution ν)) :
    NemesisRunner ν :=
  executions.foldl (fun runner execution =>
    exitState ((executeNemesis execution).run runner)) runner

end Sct.Nemesis
