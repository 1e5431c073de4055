import Mathlib.Data.List.Basic

/-!
# After a failed decommission

`FailedDecommissionOperationMonitoring.__exit__` of `sdcm/utils/topology_ops.py`, with
`verify_decommission` of `sdcm/cluster.py`. What the queries find is given. The steps that terminate
the node and clean up after it succeed.
-/

namespace Sct.Nemesis

/-- What `verify_decommission` finds; no list of addresses if `nodetool status` fails. -/
structure Findings where
  targetNodeIp : String
  nodeIpList : Option (List String)
  missingHostIds : List String
  decommissionDone : Bool
  isClusterTopologyConsistent : Bool

inductive VerificationError where
  /-- `target_node_ip in None`. -/
  | typeError
  | nodeStayInClusterAfterDecommission
  | nodeCleanedAfterDecommissionAborted
  deriving DecidableEq, Repr

def verifyDecommission (findings : Findings) : Except VerificationError Unit :=
  match findings.nodeIpList with
  | none => .error .typeError
  | some nodeIpList =>
    if findings.targetNodeIp ∈ nodeIpList ∧ findings.missingHostIds = [] ∧
        !findings.decommissionDone then
      .error .nodeStayInClusterAfterDecommission
    else if findings.missingHostIds ≠ [] ∧ !findings.decommissionDone then
      if findings.isClusterTopologyConsistent then .error .nodeStayInClusterAfterDecommission
      else .error .nodeCleanedAfterDecommissionAborted
    else .ok ()

inductive BodyException where
  | killNemesis
  | other
  deriving DecidableEq, Repr

/-- What `is_node_decommissioning` answers, unless its query raises. -/
inductive Poll where
  | inProgress
  | ended
  | failed
  deriving DecidableEq, Repr

/-- How the body ended, what the two polls of `__exit__` answer, then those that `wait_for` makes
until its timeout, and what the verification finds. -/
structure Exit where
  exception : Option BodyException
  first : Poll
  second : Poll
  later : List Poll
  findings : Findings

/-- `__exit__` returns nothing, returns `True` or raises. -/
inductive ExitOutcome where
  | passed
  | suppressed
  | raised
  deriving DecidableEq, Repr

def Exit.verified (exit : Exit) : ExitOutcome :=
  match verifyDecommission exit.findings with
  | .ok _ => .suppressed
  | .error _ => .raised

def Exit.run (exit : Exit) : ExitOutcome :=
  if exit.first = .failed then .raised
  else if exit.exception = some .other ∨ exit.first = .inProgress then
    match exit.second with
    | .failed => .raised
    | .ended => exit.verified
    | .inProgress => if .ended ∈ exit.later then exit.verified else .raised
  else .passed

end Sct.Nemesis
