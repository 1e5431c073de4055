import Mathlib.Logic.Function.Basic
import Sct.Lib.Dict
import Sct.Lib.Effect
import Sct.Lib.Words

/-!
# The allocator of nemesis targets

`sdcm/nemesis/utils/node_allocator.py`. Each operation holds the lock while it runs, so a history is
a sequence of whole operations. What an operation reads of the cluster is passed to it, since nodes
come and go between operations. The order in which Python lists an intersection of sets and the draw
of `random.choice` are parameters.
-/

open Sct.Effect

namespace Sct.Nemesis

/-- `NEMESIS_TARGET_POOLS`. -/
inductive TargetPool where
  | dataNodes
  | zeroNodes
  | allNodes
  deriving DecidableEq, Repr

def TargetPool.value : TargetPool → String
  | .dataNodes => "data_nodes"
  | .zeroNodes => "zero_nodes"
  | .allNodes => "nodes"

structure NodeInfo where
  name : String
  isSeed : Bool
  dcIdx : Nat
  rack : Nat
  isZeroTokenNode : Bool

structure Tester (ν : Type) where
  allDbNodes : List ν
  info : ν → NodeInfo

inductive AllocationErrorClass where
  /-- `NemesisNodeAllocationError` itself. -/
  | nemesisNodeAllocationError
  | allNodesRunNemesisError
  | noNodeMatchesCriteriaError
  deriving DecidableEq, Repr

structure AllocationError where
  cls : AllocationErrorClass
  message : String
  deriving DecidableEq, Repr

variable {ν : Type} [DecidableEq ν]

structure Allocator (ν : Type) where
  activeNemesisOnNodes : Dict ν String
  /-- The `running_nemesis` attribute of every node. -/
  runningNemesis : ν → Option String
  published : List String

abbrev Locked (ν : Type) := EStateM AllocationError (Allocator ν)

namespace Allocator

/-- A new allocator; no node runs a nemesis. -/
def initial : Allocator ν := ⟨Dict.empty, fun _ => none, []⟩

/-- Enter a node into the table and mark it. -/
def hold (state : Allocator ν) (node : ν) (label : String) : Allocator ν where
  activeNemesisOnNodes := state.activeNemesisOnNodes.set node label
  runningNemesis := Function.update state.runningNemesis node (some label)
  published := state.published

/-- Delete a node from the table and unmark it. -/
def release (state : Allocator ν) (node : ν) : Allocator ν where
  activeNemesisOnNodes := state.activeNemesisOnNodes.erase node
  runningNemesis := Function.update state.runningNemesis node none
  published := state.published

def publish (state : Allocator ν) (message : String) : Allocator ν :=
  { state with published := state.published ++ [message] }

/-- The label a node is held under, as messages name it. -/
def owner (state : Allocator ν) (node : ν) : String :=
  (state.activeNemesisOnNodes.get node).getD ""

end Allocator

/-- How Python prints a dictionary of texts without quotes or escapes in them. -/
def formatDict (dict : Dict String String) : String :=
  let items := dict.entries.map fun entry => "'" ++ entry.1 ++ "': '" ++ entry.2 ++ "'"
  "\x7b" ++ ", ".intercalate items ++ "\x7d"

def formatBool : Bool → String
  | true => "True"
  | false => "False"

/-- The `is_seed` argument. -/
inductive SeedFilter where
  /-- `DefaultValue`: `filter_seed` decides. -/
  | defaultValue
  /-- `None`: any node. -/
  | any
  | only (isSeed : Bool)
  deriving DecidableEq, Repr

/-- An order in which the elements of a set are listed. -/
structure SetOrder (ν : Type) where
  /-- List the elements of a set given as a list without repetitions. -/
  list : List ν → List ν
  perm : ∀ nodes, (list nodes).Perm nodes

/-- The arguments of `select_target_node` and the two choices it leaves open. -/
structure Selection (ν : Type) where
  poolType : TargetPool
  filterSeed : Bool
  isSeed : SeedFilter
  dcIdx : Option Nat
  rack : Option Nat
  allowOnlyLastNodeInRack : Bool
  nodeList : Option (List ν)
  /-- The order of the intersection with `node_list`. -/
  order : SetOrder ν
  /-- What `random.choice` draws. -/
  draw : Nat

variable (tester : Tester ν) (selection : Selection ν)

def getPoolTypeNodes : TargetPool → List ν
  | .allNodes => tester.allDbNodes
  | .zeroNodes => tester.allDbNodes.filter fun node => (tester.info node).isZeroTokenNode
  | .dataNodes => tester.allDbNodes.filter fun node => !(tester.info node).isZeroTokenNode

/-- The seed status that is asked for, if one is. -/
def SeedFilter.wanted (filterSeed : Bool) : SeedFilter → Option Bool
  | .defaultValue => if filterSeed then some false else none
  | .any => none
  | .only isSeed => some isSeed

/-- Keep the nodes with a wanted field, or all when none is wanted. -/
def keepWanted {α : Type} [DecidableEq α] (wanted : Option α) (field : ν → α)
    (nodes : List ν) : List ν :=
  match wanted with
  | some value => nodes.filter fun node => decide (field node = value)
  | none => nodes

def filterNodes (nodes : List ν) : List ν :=
  let bySeed := keepWanted (selection.isSeed.wanted selection.filterSeed)
    (fun node => (tester.info node).isSeed) nodes
  let byDc := keepWanted selection.dcIdx (fun node => (tester.info node).dcIdx) bySeed
  keepWanted selection.rack (fun node => (tester.info node).rack) byDc

/-- The nodes that may be selected before the criteria are applied. -/
def availableForSelection (state : Allocator ν) : List ν :=
  let free := (getPoolTypeNodes tester selection.poolType).filter fun node =>
    decide (node ∉ state.activeNemesisOnNodes)
  match selection.nodeList with
  | some (first :: rest) =>
    selection.order.list (free.filter fun node => decide (node ∈ first :: rest)).dedup
  | _ => free

/-- The text of `AllNodesRunNemesisError`. -/
def allNodesRunNemesis (state : Allocator ν) (nemesisName : String) : AllocationError :=
  let reserved := state.activeNemesisOnNodes.entries.map fun entry =>
    ((tester.info entry.1).name, entry.2)
  ⟨.allNodesRunNemesisError, nemesisName ++ ": node allocation failed.\nAll nodes from pool '" ++
    selection.poolType.value ++ "' are running nemeses:\n" ++
    formatDict (Dict.empty.setAll reserved)⟩

def formatCriterion (name : String) : Option String → String
  | some value => name ++ "=" ++ value
  | none => ""

/-- The text of `NoNodeMatchesCriteriaError`. -/
def noNodeMatchesCriteria (available : List ν) (nemesisName : String) : AllocationError :=
  let seed := match selection.isSeed with
    | .defaultValue => none
    | .any => some "None"
    | .only isSeed => some (formatBool isSeed)
  let criteria := formatCriterion "dc_idx" (selection.dcIdx.map toString) ++ ", " ++
    formatCriterion "rack" (selection.rack.map toString) ++ ", " ++ formatCriterion "is_seed" seed
  ⟨.noNodeMatchesCriteriaError, nemesisName ++
    ": node allocation failed.\nThe following '" ++ selection.poolType.value ++
    "' nodes are available for selection, but none of them match the specified criteria (" ++
    criteria ++ ").\n" ++ formatList (available.map fun node => (tester.info node).name) ++ "."⟩

/-- The node picked among the candidates: the last one, or the one drawn. -/
def pick (candidates : List ν) : Option ν :=
  if selection.allowOnlyLastNodeInRack ∧ selection.rack.isSome then candidates.getLast?
  else candidates[selection.draw % candidates.length]?

def selectTargetNode (nemesisName : String) : Locked ν ν := do
  let state ← get
  let available := availableForSelection tester selection state
  if available = [] then throw (allNodesRunNemesis tester selection state nemesisName)
  else
    match pick selection (filterNodes tester selection available) with
    | none => throw (noNodeMatchesCriteria tester selection available nemesisName)
    | some node => do
      set (state.hold node nemesisName)
      pure node

/-- What `run_nemesis` asks for: it has no criteria of its own beside `filter_seed`. -/
def Selection.ofRunNemesis : Selection ν :=
  { selection with isSeed := .defaultValue, dcIdx := none, rack := none,
                   allowOnlyLastNodeInRack := false }

/-- `run_nemesis` as far as its `yield`; it ends with `unset_running_nemesis` of the node. -/
def runNemesis (uniqueNemesisLabel : String) : Locked ν ν :=
  selectTargetNode tester selection.ofRunNemesis uniqueNemesisLabel

def setRunningNemesis (node : ν) (nemesisName : String) : Locked ν Bool := do
  let state ← get
  if node ∈ state.activeNemesisOnNodes then
    set (state.publish (nemesisName ++ ": setting running nemesis failed.\nTried to set running " ++
      "nemesis for node " ++ (tester.info node).name ++ ", but it was already reserved by '" ++
      state.owner node ++ "' nemesis."))
    pure false
  else
    set (state.hold node nemesisName)
    pure true

def unsetRunningNemesis (node : ν) (nemesisName : String) :
    Locked ν Unit := do
  let state ← get
  let tried := nemesisName ++ ": unsetting running nemesis failed.\nTried to unset '" ++
    nemesisName ++ "' nemesis from node " ++ (tester.info node).name
  match state.activeNemesisOnNodes.get node with
  | some owner =>
    if owner = nemesisName then set (state.release node)
    else set (state.publish (tried ++ ", but it was running another '" ++ owner ++ "' nemesis."))
  | none => set (state.publish (tried ++ ", but it was not running any nemesis."))

def unsetRunningNemesisFromAllNodes (nemesisName : String) : Locked ν Unit := do
  let state ← get
  let held := state.activeNemesisOnNodes.entries.filter fun entry => decide (entry.2 = nemesisName)
  set ((held.map Prod.fst).foldl Allocator.release state)

/-- What `switch_target_node` does with the old node. -/
def releaseOldNode (oldNode : ν) (nemesisName : String) : Locked ν Unit := do
  let state ← get
  match state.activeNemesisOnNodes.get oldNode with
  | none => pure ()
  | some owner =>
    if owner = nemesisName then set (state.release oldNode)
    else set (state.publish (nemesisName ++ ": switching target node failed.\nDuring switch, " ++
      "old node " ++ (tester.info oldNode).name ++ " was running another '" ++ owner ++
      "' nemesis."))

def switchTargetNode (oldNode : Option ν) (newNode : ν) (nemesisName : String) : Locked ν Bool :=
  if oldNode = some newNode then pure true
  else do
    let state ← get
    match state.activeNemesisOnNodes.get newNode with
    | some owner =>
      throw ⟨.nemesisNodeAllocationError, nemesisName ++ ": node switching failed.\nRequested " ++
        "node is already running nemesis '" ++ owner ++ "'"⟩
    | none => do
      oldNode.forM fun node => releaseOldNode tester node nemesisName
      modify fun state => state.hold newNode nemesisName
      pure true

/-! ## Marking several nodes -/

/-- Code that takes the lock several times. The number counts how often it did. -/
abbrev Contended (ν : Type) := EStateM AllocationError (Nat × Allocator ν)

/-- What other threads do until this one takes the lock for another time. -/
abbrev Interference (ν : Type) := Nat → Allocator ν → Allocator ν

/-- An operation of this thread, after what other threads did since its last one. -/
def Locked.contended {α : Type} (others : Interference ν) (operation : Locked ν α) :
    Contended ν α := fun (time, state) =>
  match operation (others time state) with
  | .ok value after => .ok value (time + 1, after)
  | .error error after => .error error (time + 1, after)

def unsetAll (others : Interference ν) (tester : Tester ν) (nemesisName : String)
    (markedNodes : List ν) : Contended ν Unit :=
  markedNodes.forM fun node => (unsetRunningNemesis tester node nemesisName).contended others

/-- The error of `nodes_running_nemesis`. -/
def alreadyReserved (node : ν) (nemesisName : String) : AllocationError :=
  ⟨.nemesisNodeAllocationError, nemesisName ++ ": failed to set running nemesis for all requested " ++
    "nodes; " ++ (tester.info node).name ++ " was already reserved."⟩

/-- The loop of `nodes_running_nemesis`. -/
def markNodes (others : Interference ν) (tester : Tester ν) (nemesisName : String)
    (markedNodes : List ν) : List ν → Contended ν (List ν)
  | [] => pure markedNodes
  | node :: rest => do
    if ← (setRunningNemesis tester node nemesisName).contended others then
      markNodes others tester nemesisName (markedNodes ++ [node]) rest
    else
      unsetAll others tester nemesisName markedNodes
      throw (alreadyReserved tester node nemesisName)

/-- `nodes_running_nemesis`. The body of the `with` statement returns or raises an outcome, and the
`finally` clause follows it. -/
def nodesRunningNemesis {ω : Type} (others : Interference ν) (tester : Tester ν) (nodes : List ν)
    (nemesisName : String) (body : Nat × Allocator ν → ω × (Nat × Allocator ν)) :
    Contended ν ω := do
  let markedNodes ← markNodes others tester nemesisName [] nodes
  let outcome ← modifyGet body
  unsetAll others tester nemesisName markedNodes
  pure outcome

/-! ## Histories -/

inductive Operation (ν : Type) where
  | select (selection : Selection ν)
  | set (node : ν)
  | unset (node : ν)
  | unsetFromAll
  | switch (oldNode : Option ν) (newNode : ν)

/-- One call of an operation by the nemesis with a label. -/
structure Call (ν : Type) where
  label : String
  tester : Tester ν
  operation : Operation ν

inductive Answer (ν : Type) where
  | node (selected : ν)
  | flag (value : Bool)
  | none
  deriving DecidableEq, Repr

def Call.run (call : Call ν) : Locked ν (Answer ν) :=
  match call.operation with
  | .select selection => Answer.node <$> selectTargetNode call.tester selection call.label
  | .set node => Answer.flag <$> setRunningNemesis call.tester node call.label
  | .unset node => (fun _ => Answer.none) <$> unsetRunningNemesis call.tester node call.label
  | .unsetFromAll => (fun _ => Answer.none) <$> unsetRunningNemesisFromAllNodes call.label
  | .switch oldNode newNode =>
    Answer.flag <$> switchTargetNode call.tester oldNode newNode call.label

/-- The state a call leaves, whether it returns or raises. -/
def Call.step (state : Allocator ν) (call : Call ν) : Allocator ν :=
  exitState (EStateM.run call.run state)

/-- The state after a history of calls, from a new allocator. -/
def afterCalls (calls : List (Call ν)) : Allocator ν := calls.foldl Call.step Allocator.initial

end Sct.Nemesis
