import Sct.Lib.Dict

/-!
# Replication strategies that are set for a while

`temporary_replication_strategy_setter` of `sdcm/utils/replication_strategy_utils.py`, for any type
of strategies: what `describe` shows of a keyspace is read and given back to `ALTER KEYSPACE` as it
was. What the database answers is part of each change.
-/

namespace Sct.Utils

variable {σ : Type}

/-- One keyspace of a call. -/
structure StrategyChange (σ : Type) where
  keyspace : String
  strategy : σ
  /-- The strategy it has, `none` when reading it is refused. -/
  read : Option σ
  /-- `ALTER KEYSPACE` is accepted. -/
  accepted : Bool

/-- `ALTER KEYSPACE` as it was requested. -/
structure Alter (σ : Type) where
  keyspace : String
  strategy : σ
  accepted : Bool

structure StrategySetter (σ : Type) where
  preserved : Dict String σ
  alters : List (Alter σ)

namespace StrategySetter

def enter : StrategySetter σ := ⟨.empty, []⟩

/-- `_preserve_replication_strategy`, `none` for `InvalidRequest`. -/
def preserve (preserved : Dict String σ) (change : StrategyChange σ) : Option (Dict String σ) :=
  if change.keyspace ∈ preserved then some preserved
  else change.read.map (preserved.set change.keyspace)

/-- A turn of the loop of `__call__`. A refused `ALTER KEYSPACE` has no more effect on the setter
than an accepted one. -/
def set (setter : StrategySetter σ) (change : StrategyChange σ) : StrategySetter σ :=
  match preserve setter.preserved change with
  | none => setter
  | some preserved =>
    ⟨preserved, setter.alters ++ [⟨change.keyspace, change.strategy, change.accepted⟩]⟩

/-- `__call__`; several calls are one with all their keyspaces. -/
def call (setter : StrategySetter σ) (changes : List (StrategyChange σ)) : StrategySetter σ :=
  changes.foldl set setter

/-- `__exit__`, for any answers to what it requests. -/
def exit (setter : StrategySetter σ) (reads : String → Option σ) (accepts : String → Bool) :
    StrategySetter σ :=
  setter.call (setter.preserved.entries.map fun (keyspace, strategy) =>
    ⟨keyspace, strategy, reads keyspace, accepts keyspace⟩)

end StrategySetter

end Sct.Utils
