import Sct.Lib.Words

/-!
# Switching tablet auto-repair off for a while

`set_node_auto_repair` and `temporarily_disable_auto_repair` of `sdcm/utils/tablets/common.py`. The
operations on a node catch every `Exception`, so what is raised out of them is `KillNemesis`.
-/

namespace Sct.Utils

/-- `set_scylla_config_param`: `True`; `False` after an exception, which may come after the update;
or a raise, before or after the update. -/
inductive LiveUpdate where
  | updated
  | failed (changed : Bool)
  | killed (changed : Bool)

def LiveUpdate.changes : LiveUpdate → Bool
  | .updated => true
  | .failed changed | .killed changed => changed

/-- What comes of setting the flag on a node. -/
structure Setting where
  live : LiveUpdate
  /-- A raise while the value is persisted. -/
  killed : Bool

/-- `set_node_auto_repair`, `none` when it raises. -/
def setNodeAutoRepair (setting : Setting) : Option Bool :=
  match setting.live with
  | .updated => if setting.killed then none else some true
  | .failed _ => some false
  | .killed _ => none

structure DataNode where
  name : String
  /-- `get_scylla_config_param`, `none` when it raises. -/
  priorValue : Option (Option String)
  off : Setting
  on : Setting

def DataNode.isOn (prior : Option String) : Bool := prior.map strip == some "true"

/-- The loop over the data nodes: the nodes on which the flag was changed, `disabled_nodes`, and
whether it raised. -/
def disableEach : List DataNode → List DataNode × List DataNode × Bool
  | [] => ([], [], false)
  | node :: rest =>
    match node.priorValue with
    | none => ([], [], true)
    | some prior =>
      if DataNode.isOn prior then
        let changed := if node.off.live.changes then [node] else []
        match setNodeAutoRepair node.off with
        | none => (changed, [], true)
        | some done =>
          let (switched, disabled, raised) := disableEach rest
          (changed ++ switched, if done then node :: disabled else disabled, raised)
      else disableEach rest

/-- The loop of the `finally`: the nodes it came to. -/
def enableEach : List DataNode → List DataNode
  | [] => []
  | node :: rest => node :: if (setNodeAutoRepair node.on).isSome then enableEach rest else []

/-- The nodes that were switched off, and those on which switching on was attempted, once
`temporarily_disable_auto_repair` was left. The body only runs inside the `try`, where it does not
matter how it ends. -/
def temporarilyDisableAutoRepair (dataNodes : List DataNode) (drainRaises : Bool) :
    List DataNode × List DataNode :=
  let (switched, disabled, raised) := disableEach dataNodes
  if raised || !disabled.isEmpty && drainRaises then (switched, [])
  else (switched, enableEach disabled)

end Sct.Utils
