import Sct.Lib.Dict
import Sct.Lib.PyExpr
import Sct.Lib.Words

/-!
# Choosing nemeses by logical phrases

`BooleanEvaluator` of `sdcm/utils/ast_utils.py`, `filter_subclasses` of
`sdcm/nemesis/registry.py`, and the two functions of the runner in `sdcm/nemesis/__init__.py` that
build nemeses: by a selector, and by a list of class names. The class hierarchy is given as the
list `get_subclasses` returns. A nemesis object stands for its class: the builders read nothing
else of it. Log lines are left out.
-/

namespace Sct.Nemesis

open PyExpr

inductive BuildError where
  /-- `SyntaxError` of the parser. -/
  | syntaxError
  /-- `RuntimeError` of the evaluator. -/
  | runtimeError (message : String)
  | valueError (message : String)
  deriving DecidableEq, Repr

/-! ## The evaluator -/

abbrev Context := String → Bool

mutual

def visit (context : Context) : Expr → Except BuildError Bool
  | .name id => .ok (context id)
  | .constant (some value) => .ok value
  | .constant none => .error (.valueError "non-boolean value")
  | .tuple => .error (.runtimeError "non-boolean expression")
  | .call => .error (.runtimeError "non-boolean expression")
  | .not operand =>
    match visit context operand with
    | .ok value => .ok (!value)
    | .error exc => .error exc
  | .and values => visitAll context values
  | .or values => visitAny context values

/-- `all(self.visit(c) for c in values)`. -/
def visitAll (context : Context) : List Expr → Except BuildError Bool
  | [] => .ok true
  | value :: rest =>
    match visit context value with
    | .ok true => visitAll context rest
    | .ok false => .ok false
    | .error exc => .error exc

/-- `any(self.visit(c) for c in values)`. -/
def visitAny (context : Context) : List Expr → Except BuildError Bool
  | [] => .ok false
  | value :: rest =>
    match visit context value with
    | .ok true => .ok true
    | .ok false => visitAny context rest
    | .error exc => .error exc

end

/-! ## The registry -/

/-- A nemesis class: its name, the truth of its flags, and whether it can be made an object. -/
structure NemesisClass where
  name : String
  flag : String → Bool
  /-- Whether `subclass(runner=self)` returns. -/
  constructible : Bool

/-- What `NemesisRegistry` knows, and Python's parser. Class names are Python names, none is also a
flag, and no two classes have one name; a class with several bases may be listed several times. -/
structure Registry where
  /-- `members`, the names of the flags. -/
  members : List String
  subclasses : List NemesisClass
  /-- `kubernetes` is a flag. -/
  kubernetes : "kubernetes" ∈ members
  named : ∀ cls ∈ subclasses, IsName cls.name
  separate : ∀ cls ∈ subclasses, cls.name ∉ members
  unique : ∀ cls ∈ subclasses, ∀ other ∈ subclasses, cls.name = other.name → cls = other
  /-- `ast.parse(text, mode="eval")`, nothing on a `SyntaxError`. -/
  astParse : String → Option Expr
  parses : ∀ text, IsPhrase text → astParse text = parse text

namespace Registry

variable (registry : Registry)

/-- A flag of a class, as the evaluator looks it up. -/
def hasFlag (cls : NemesisClass) (flag : String) : Bool :=
  decide (flag ∈ registry.members) && cls.flag flag

/-- `context` of a class: its flags, and its own name. -/
def context (cls : NemesisClass) : Context := fun id =>
  if id = cls.name then true else registry.hasFlag cls id

/-- The loop of `filter_subclasses` over the classes. -/
def filterBy (expr : Expr) : List NemesisClass → Except BuildError (List NemesisClass)
  | [] => .ok []
  | cls :: rest =>
    match visit (registry.context cls) expr with
    | .error exc => .error exc
    | .ok passed =>
      match filterBy expr rest with
      | .error exc => .error exc
      | .ok others => .ok (if passed then cls :: others else others)

def filterSubclasses (logicalPhrase : String) : Except BuildError (List NemesisClass) :=
  if logicalPhrase = "" then .ok registry.subclasses
  else
    match registry.astParse logicalPhrase with
    | none => .error .syntaxError
    | some expr => registry.filterBy expr registry.subclasses

end Registry

/-! ## The runner -/

/-- The runner, as far as building nemeses reads it. -/
structure Runner where
  registry : Registry
  onKubernetes : Bool
  ownSelector : Option String
  /-- The `nemesis_selector` parameter, as a list. -/
  paramsSelector : Option (List String)

namespace Runner

variable (runner : Runner)

def nemesisSelector : String :=
  match runner.ownSelector with
  | some selector => selector
  | none => (runner.paramsSelector.getD []).headD ""

/-- The phrase `build_disruptions_by_selector` filters by. -/
def effectiveSelector (nemesisSelector : String) : String :=
  if runner.onKubernetes then
    if nemesisSelector = "" then "kubernetes" else nemesisSelector ++ " and " ++ "kubernetes"
  else nemesisSelector

def buildDisruptionsBySelector (nemesisSelector : String) :
    Except BuildError (List NemesisClass) :=
  match runner.registry.filterSubclasses (runner.effectiveSelector nemesisSelector) with
  | .error exc => .error exc
  | .ok subclasses => .ok (subclasses.filter NemesisClass.constructible)

/-- The phrase that names classes, within the active selector. -/
def namesSelector (disruptMethods : List String) : String :=
  let methodSelector := " or ".intercalate disruptMethods
  if runner.nemesisSelector = "" then methodSelector
  else runner.nemesisSelector ++ " and " ++ ("(" ++ methodSelector ++ ")")

/-- `sorted` of a set of texts. -/
def sortedSet (texts : List String) : List String := texts.dedup.mergeSort

def buildDisruptionsByName (disruptMethods : List String) :
    Except BuildError (List NemesisClass) :=
  let known := runner.registry.subclasses.map NemesisClass.name
  let unknown := disruptMethods.filter fun name => decide (name ∉ known)
  if unknown ≠ [] then
    .error (.valueError ("Unknown nemesis class names in " ++ formatList disruptMethods ++ ": " ++
      formatList (sortedSet unknown)))
  else
    match runner.buildDisruptionsBySelector (runner.namesSelector disruptMethods) with
    | .error exc => .error exc
    | .ok filtered =>
      let byName := Dict.empty.setAll (filtered.map fun cls => (cls.name, cls))
      if byName.entries = [] then
        .error (.valueError ("No nemesis left from " ++ formatList disruptMethods ++
          " under selector '" ++ runner.nemesisSelector ++ "'"))
      else .ok (byName.entries.map Prod.snd)

end Runner

end Sct.Nemesis
