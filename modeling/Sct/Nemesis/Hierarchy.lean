import Sct.Nemesis.Registry

/-!
# The hierarchy of nemesis classes

`get_subclasses` and `filter_subclasses` of `sdcm/nemesis/registry.py` over the classes themselves:
the subclasses of the base class are collected level by level. What the runner makes of the
collected list is in `Sct.Nemesis.Registry`.
-/

namespace Sct.Nemesis

open PyExpr

/-- The classes below a base class, and what the registry reads of them. -/
structure Hierarchy (κ : Type) where
  baseClass : κ
  /-- `cls.__subclasses__()`. -/
  subclasses : κ → List κ
  nodup : ∀ cls, (subclasses cls).Nodup
  /-- A bound of the levels below a class: no class is below itself. -/
  height : κ → Nat
  lower : ∀ cls, ∀ sub ∈ subclasses cls, height sub < height cls
  excludedList : List κ
  isAbstract : κ → Bool
  /-- The names of the flags. -/
  members : List String
  name : κ → String
  flag : κ → String → Bool
  /-- `ast.parse(text, mode="eval")`, nothing on a `SyntaxError`. -/
  astParse : String → Option Expr
  blank : astParse "" = none

namespace Hierarchy

variable {κ : Type} [DecidableEq κ] (hierarchy : Hierarchy κ)

/-- Whether a class can be chosen. -/
def admits (nemesis : κ) : Bool :=
  decide (nemesis ∉ hierarchy.excludedList) && !hierarchy.isAbstract nemesis

/-- The body of the inner loop of `get_subclasses`, on `tmp` and `subclasses`. -/
def collect (state : List κ × List κ) (nemesis : κ) : List κ × List κ :=
  (state.1.erase nemesis ++ hierarchy.subclasses nemesis,
    if hierarchy.admits nemesis then state.2 ++ [nemesis] else state.2)

/-- The outer loop of `get_subclasses`, for a number of passes. -/
def collectAll : Nat → List κ × List κ → Option (List κ)
  | 0, state => if state.1.isEmpty then some state.2 else none
  | passes + 1, state =>
    if state.1.isEmpty then some state.2
    else collectAll passes (state.1.foldl hierarchy.collect state)

def getSubclasses : Option (List κ) :=
  hierarchy.collectAll (hierarchy.height hierarchy.baseClass)
    (hierarchy.subclasses hierarchy.baseClass, [])

/-- `context` of a class: its flags, and its own name. -/
def context (nemesis : κ) : Context := fun id =>
  if id = hierarchy.name nemesis then true
  else decide (id ∈ hierarchy.members) && hierarchy.flag nemesis id

/-- The body of the loop of `filter_subclasses`. -/
def choose (expr : Expr) (chosen : List κ) (nemesis : κ) : Except BuildError (List κ) :=
  (visit (hierarchy.context nemesis) expr).map fun passed =>
    if passed then chosen ++ [nemesis] else chosen

/-- Nothing if the passes do not suffice. -/
def filterSubclasses (logicalPhrase : String) : Option (Except BuildError (List κ)) :=
  hierarchy.getSubclasses.map fun subclasses =>
    if logicalPhrase = "" then .ok subclasses
    else
      match hierarchy.astParse logicalPhrase with
      | none => .error .syntaxError
      | some expr => subclasses.foldlM (hierarchy.choose expr) []

end Hierarchy

end Sct.Nemesis
