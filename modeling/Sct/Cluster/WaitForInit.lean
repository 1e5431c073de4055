import Sct.Events.Severities

/-!
# Calls of `wait_for_init`

What `wait_for_init_wrap` in `sdcm/cluster.py` does to the limits of severities. Calls on different
clusters run in threads of their own, so a step is one reading or one insertion, and the steps of
several calls come in any order.
-/

namespace Sct.Setup

open Sct.Events

/-- What a call keeps of a critical event. -/
structure CriticalEvent where
  rulePattern : String
  defaultSeverity : Severity

namespace CriticalEvent

def criticalRule (event : CriticalEvent) : String :=
  event.rulePattern ++ "=" ++ Severity.critical.name

def defaultRule (event : CriticalEvent) : String :=
  event.rulePattern ++ "=" ++ event.defaultSeverity.name

end CriticalEvent

/-- Where in `critical_node_setup_events` a call is. -/
inductive Phase where
  | recording (critical : List CriticalEvent) (left : List EventType)
  | lifting (critical : List CriticalEvent) (left : List String)
  /-- At the `yield`: the filters are entered and the nodes are set up. -/
  | inside (critical : List CriticalEvent)
  | restoring (left : List String)

/-- The rules, and the calls in their block, the one that entered last first. -/
structure Setups (κ : Type) where
  limitRules : List LimitRule
  calls : List (κ × Phase)

inductive Step (κ : Type) where
  /-- A call comes to its block, with these critical events. -/
  | enter (call : κ) (critical : List EventType)
  | advance (call : κ)
  /-- A call raises: an event cannot be made, a filter cannot be entered, or the setup or the
  startup of a node fails. -/
  | fail (call : κ)

variable {κ : Type} [DecidableEq κ]

/-- The rules and the phase after the next step of a call; no phase when it left its block. -/
def advancePhase (registry : Registry) (limitRules : List LimitRule) :
    Phase → List LimitRule × Option Phase
  | .recording critical (event :: left) =>
    let entry := ⟨event.rulePattern, registry.maxSeverity limitRules event⟩
    (limitRules, some (.recording (critical ++ [entry]) left))
  | .recording critical [] =>
    (limitRules, some (.lifting critical (critical.map CriticalEvent.criticalRule)))
  | .lifting critical (rule :: left) =>
    (addSeverityLimitRule limitRules rule, some (.lifting critical left))
  | .lifting critical [] => (limitRules, some (.inside critical))
  | .inside critical => (limitRules, some (.restoring (critical.map CriticalEvent.defaultRule)))
  | .restoring (rule :: left) => (addSeverityLimitRule limitRules rule, some (.restoring left))
  | .restoring [] => (limitRules, none)

/-- Whether something in this phase can raise: adding rules cannot. -/
def Phase.canFail : Phase → Bool
  | .recording _ _ => true
  | .lifting _ _ => false
  | .inside _ => true
  | .restoring _ => false

/-- The calls without one that left its block. -/
def leave (call : κ) (calls : List (κ × Phase)) : List (κ × Phase) :=
  calls.eraseP (·.1 == call)

/-- One step. A step of a call that is not in its block changes nothing. -/
def step (registry : Registry) (setups : Setups κ) : Step κ → Setups κ
  | .enter call critical =>
    match Dict.lookup call setups.calls with
    | some _ => setups
    | none => { setups with calls := (call, .recording [] critical) :: setups.calls }
  | .advance call =>
    match Dict.lookup call setups.calls with
    | none => setups
    | some phase =>
      match advancePhase registry setups.limitRules phase with
      | (limitRules, some next) => ⟨limitRules, Dict.assign call next setups.calls⟩
      | (limitRules, none) => ⟨limitRules, leave call setups.calls⟩
  | .fail call =>
    match Dict.lookup call setups.calls with
    | none => setups
    | some phase =>
      if phase.canFail then { setups with calls := leave call setups.calls } else setups

def run (registry : Registry) (setups : Setups κ) (steps : List (Step κ)) : Setups κ :=
  steps.foldl (step registry) setups

/-- `SYSTEM_ERROR_EVENTS` of `sdcm/sct_events/database.py`: the types of `DatabaseLogEvent`. -/
def systemErrorTypes : List String :=
  ["OVERSIZED_ALLOCATION", "WARNING", "UNKNOWN_VERB", "CLIENT_DISCONNECT", "SEMAPHORE_TIME_OUT",
    "LDAP_CONNECTION_RESET", "SYSTEM_PAXOS_TIMEOUT", "SERVICE_LEVEL_CONTROLLER", "GATE_CLOSED",
    "RESTARTED_DUE_TO_TIME_OUT", "EMPTY_NESTED_EXCEPTION", "COMPACTION_STOPPED",
    "DIRECTORY_NOT_EMPTY", "RAFT_TRANSFER_SNAPSHOT_ERROR", "REACTOR_STALLED", "KERNEL_CALLSTACK",
    "SUPPRESSED_MESSAGES", "RPC_CONNECTION", "TABLET_SPLIT", "TABLET_MERGE", "INFO",
    "NO_SPACE_ERROR", "BAD_ALLOC", "SCHEMA_FAILURE", "RUNTIME_ERROR", "FILESYSTEM_ERROR",
    "DISK_ERROR", "STACKTRACE", "RAFT_TOPOLOGY_SENDING_ERROR", "ABORTING_ON_SHARD",
    "SEGMENTATION", "CORRUPTED_SSTABLE", "INTEGRITY_CHECK", "stream_exception",
    "TOO_LONG_QUEUE_ACCUMULATED", "DATABASE_ERROR", "BACKTRACE"]

lemma systemErrorTypes_plain : ∀ text ∈ systemErrorTypes, IsPlain text := by
  decide +kernel

def databaseLogEvent (type : EventName) : EventType where
  className := "DatabaseLogEvent." ++ type.text
  base := ⟨"DatabaseLogEvent", by decide⟩
  type := some type
  subtype := none

def defaultCriticalEvents : List EventType :=
  systemErrorTypes.attach.map fun text =>
    databaseLogEvent ⟨text.1, systemErrorTypes_plain text.1 text.2⟩

/-- The limits of these event types in `defaults/severities.yaml`. -/
def databaseSeverities : List (String × Severity) :=
  [("DatabaseLogEvent.OVERSIZED_ALLOCATION", .error), ("DatabaseLogEvent.WARNING", .warning),
    ("DatabaseLogEvent.INFO", .normal), ("DatabaseLogEvent.NO_SPACE_ERROR", .error),
    ("DatabaseLogEvent.UNKNOWN_VERB", .warning),
    ("DatabaseLogEvent.CLIENT_DISCONNECT", .warning),
    ("DatabaseLogEvent.SEMAPHORE_TIME_OUT", .warning),
    ("DatabaseLogEvent.LDAP_CONNECTION_RESET", .warning),
    ("DatabaseLogEvent.SYSTEM_PAXOS_TIMEOUT", .warning),
    ("DatabaseLogEvent.SERVICE_LEVEL_CONTROLLER", .warning),
    ("DatabaseLogEvent.GATE_CLOSED", .warning),
    ("DatabaseLogEvent.RESTARTED_DUE_TO_TIME_OUT", .warning),
    ("DatabaseLogEvent.EMPTY_NESTED_EXCEPTION", .warning),
    ("DatabaseLogEvent.BAD_ALLOC", .error), ("DatabaseLogEvent.SCHEMA_FAILURE", .error),
    ("DatabaseLogEvent.RUNTIME_ERROR", .error),
    ("DatabaseLogEvent.DIRECTORY_NOT_EMPTY", .normal),
    ("DatabaseLogEvent.FILESYSTEM_ERROR", .error), ("DatabaseLogEvent.DISK_ERROR", .error),
    ("DatabaseLogEvent.BACKTRACE", .error), ("DatabaseLogEvent.ABORTING_ON_SHARD", .error),
    ("DatabaseLogEvent.SEGMENTATION", .error), ("DatabaseLogEvent.CORRUPTED_SSTABLE", .critical),
    ("DatabaseLogEvent.INTEGRITY_CHECK", .error), ("DatabaseLogEvent.REACTOR_STALLED", .error),
    ("DatabaseLogEvent.KERNEL_CALLSTACK", .warning),
    ("DatabaseLogEvent.SUPPRESSED_MESSAGES", .warning),
    ("DatabaseLogEvent.stream_exception", .error),
    ("DatabaseLogEvent.COMPACTION_STOPPED", .normal),
    ("DatabaseLogEvent.RPC_CONNECTION", .warning),
    ("DatabaseLogEvent.TOO_LONG_QUEUE_ACCUMULATED", .error),
    ("DatabaseLogEvent.DATABASE_ERROR", .error), ("DatabaseLogEvent.STACKTRACE", .error),
    ("DatabaseLogEvent.RAFT_TRANSFER_SNAPSHOT_ERROR", .warning),
    ("DatabaseLogEvent.RAFT_TOPOLOGY_SENDING_ERROR", .warning),
    ("DatabaseLogEvent.TABLET_SPLIT", .debug), ("DatabaseLogEvent.TABLET_MERGE", .debug)]

end Sct.Setup
