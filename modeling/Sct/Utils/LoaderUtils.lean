import Sct.Lib.Effect
import Sct.Lib.Words

/-!
# Starting the stress threads of a load

`_run_all_stress_cmds`, `assemble_and_run_all_stress_cmd` and the part of `run_prepare_write_cmd`
that starts the writes, of `sdcm/utils/loader_utils.py`, with the choice of a tool by
`run_stress_thread`. A configured command list is one object: the configuration hands out the list
itself, so `*=` on it changes what the configuration holds. The state therefore keeps the lists
under the names of their parameters.
-/

namespace Sct.Loader

/-- The keyspaces a call of `_run_all_stress_cmds` is for. -/
inductive Keyspaces where
  | name (keyspaceName : String)
  | num (keyspaceNum : Nat)
  deriving DecidableEq, Repr

structure Params where
  /-- The parameter whose list `stress_cmd` is. -/
  stressCmd : String
  keyspaces : Keyspaces
  duration : Option Int
  roundRobin : Bool
  deriving DecidableEq, Repr

/-- What `run_stress_thread` starts a thread with. -/
structure StressThread where
  stressCmd : String
  duration : Option Int
  keyspaceNum : Nat
  keyspaceName : Option String
  roundRobin : Bool
  statsAggregateCmds : Bool
  deriving DecidableEq, Repr

inductive Action where
  | createCounterTable
  /-- The event that says a counter command is not supported with tablets. -/
  | publish (renderedCmd : String)
  /-- `run_stress_thread`, for this command of this call. -/
  | runStressThread (params : Params) (stressCmd : String) (thread : StressThread)
  deriving DecidableEq, Repr

/-- The configured command lists and what the loads did. -/
structure State where
  lists : String → List String
  actions : List Action

abbrev Run := EStateM String State

/-- The tester, as far as it decides about loads. -/
structure Tester where
  stressMultiplier : Int
  roundRobin : Bool
  keyspaceNum : Nat
  prepareStressDuration : Option Int
  /-- `render_stress_cmd`; the text of the error where it raises. -/
  renderStressCmd : String → Except String String
  /-- `tablets_enabled`, and counters with tablets are still an open issue. -/
  tabletsEnabled : Bool

def act (actions : List Action) : Run PUnit :=
  modify fun state => { state with actions := state.actions ++ actions }

/-- The commands for which `run_stress_thread` starts a thread; it raises for the others. -/
def isSupported (stressCmd : String) : Bool :=
  ["cql-stress-cassandra-stress", "cassandra-stress", "cassandra-harry"].any (contains stressCmd) ||
    ["scylla-bench", "bin/ycsb", "latte", "ndbench", "hydra-kcl", "nosqlbench", "gemini",
      "table_compare", "python_thread"].any (startsWith stressCmd)

def getKeyspaceName (ksNumber : Nat) : String := "keyspace" ++ toString ksNumber

/-- `stress_cmds * stress_multiplier`. -/
def repeated (count : Nat) (commands : List String) : List String :=
  (List.replicate count commands).flatten

namespace Tester

variable (tester : Tester)

/-- `stress_cmds *= stress_multiplier`, where the multiplier asks for it. -/
def multiplied (commands : List String) : List String :=
  if tester.stressMultiplier > 1 then repeated tester.stressMultiplier.toNat commands else commands

/-- The thread of a rendered command: `scylla-bench` is not told about keyspaces. -/
def stressThread (params : Params) (renderedCmd : String) : StressThread :=
  if startsWith renderedCmd "scylla-bench" then
    { stressCmd := renderedCmd, duration := none, keyspaceNum := 1, keyspaceName := none,
      roundRobin := tester.roundRobin, statsAggregateCmds := false }
  else
    { stressCmd := renderedCmd, duration := params.duration,
      keyspaceNum := match params.keyspaces with
        | .num keyspaceNum => keyspaceNum
        | .name _ => 1,
      keyspaceName := match params.keyspaces with
        | .num _ => none
        | .name keyspaceName => some keyspaceName,
      roundRobin := params.roundRobin, statsAggregateCmds := true }

/-- What is done about counters before a command is run. The event says that the command is
skipped, but it is run all the same. -/
def prepareCounters (renderedCmd : String) : List Action :=
  if contains renderedCmd "counter_" then
    if tester.tabletsEnabled then [.publish renderedCmd] else [.createCounterTable]
  else []

/-- The body of the loop of `_run_all_stress_cmds`. -/
def runStressCmd (params : Params) (stressCmd : String) : Run PUnit :=
  match tester.renderStressCmd stressCmd with
  | .error text => throw text
  | .ok renderedCmd => do
    act (tester.prepareCounters renderedCmd)
    if isSupported renderedCmd then
      act [.runStressThread params stressCmd (tester.stressThread params renderedCmd)]
    else throw ("Unsupported stress command: \"" ++
      String.ofList (renderedCmd.toList.take 50) ++ "...\"")

def runAllStressCmds (params : Params) : Run PUnit := do
  modify fun state => { state with
    lists := Function.update state.lists params.stressCmd
      (tester.multiplied (state.lists params.stressCmd)) }
  let state ← get
  forM (state.lists params.stressCmd) (tester.runStressCmd params)

/-- One call for each keyspace when they are spread over the loaders, and one for all otherwise. -/
def runForKeyspaces (stressCmd : String) (keyspaceNum : Nat) (duration : Option Int) :
    Run PUnit := do
  let state ← get
  if state.lists stressCmd ≠ [] then
    if keyspaceNum > 1 ∧ tester.roundRobin = true then
      forM (List.range' 1 keyspaceNum) fun ksNumber => tester.runAllStressCmds
        ⟨stressCmd, .name (getKeyspaceName ksNumber), duration, true⟩
    else
      tester.runAllStressCmds ⟨stressCmd, .num keyspaceNum, duration, tester.roundRobin⟩

def assembleAndRunAllStressCmd (stressCmd : String) (keyspaceNum : Nat) : Run PUnit :=
  tester.runForKeyspaces stressCmd keyspaceNum none

/-- The writes of `run_prepare_write_cmd`. -/
def runPrepareWriteCmd : Run PUnit :=
  tester.runForKeyspaces "prepare_write_cmd" tester.keyspaceNum tester.prepareStressDuration

end Tester

end Sct.Loader
