import Sct.Events.EventsDevice

/-!
# Limits of the severities of events

`add_severity_limit_rules` and `max_severity` of `sdcm/sct_events/base.py`. The rules are a global
list that is searched from the front, and a new rule is put at its front. The names of events are
checked to be identifiers when their classes are made, so a rule made of such names has no
character that `fnmatch` or the reader of rules treats in a special way. `fnmatch` itself is given
by a function that is exact on patterns without such characters.
-/

namespace Sct.Events

def Severity.name : Severity → String
  | suppress => "SUPPRESS"
  | debug => "DEBUG"
  | unknown => "UNKNOWN"
  | normal => "NORMAL"
  | warning => "WARNING"
  | error => "ERROR"
  | critical => "CRITICAL"

/-- `Severity[name]`. -/
def Severity.ofName (name : String) : Option Severity :=
  [suppress, debug, unknown, normal, warning, error, critical].find? (·.name == name)

/-- The characters with a meaning of their own in a pattern or in a rule. -/
def isSpecial (char : Char) : Bool := char ∈ ['=', '*', '?', '[']

/-- A text that stands for itself in a rule. -/
structure IsPlain (text : String) : Prop where
  /-- It has no white space, and it is not empty. -/
  word : IsWord text
  plain : ∀ char ∈ text.toList, isSpecial char = false

instance (text : String) : Decidable (IsPlain text) :=
  decidable_of_iff (IsWord text ∧ (text.toList.all fun char => !isSpecial char) = true)
    ⟨fun checked => ⟨checked.1, by simpa using checked.2⟩,
      fun plain => ⟨plain.word, by simpa using plain.plain⟩⟩

/-- A name of a class of events or of a type of them: a Python identifier. -/
structure EventName where
  text : String
  plain : IsPlain text
  deriving DecidableEq

/-- An event type: a class of events that can be made. -/
structure EventType where
  className : String
  base : EventName
  type : Option EventName
  subtype : Option EventName
  deriving DecidableEq

namespace EventType

def shown : Option EventName → String
  | some name => name.text
  | none => "None"

/-- The keys `max_severity` looks a pattern up with. -/
def keys (event : EventType) : List String :=
  [event.base.text,
    event.base.text ++ "." ++ shown event.type,
    event.base.text ++ "." ++ shown event.type ++ "." ++ shown event.subtype]

/-- `critical_event["rule_pattern"]`: the names that are there, joined. -/
def rulePattern (event : EventType) : String :=
  ".".intercalate
    (([some event.base, event.type, event.subtype].filterMap id).map EventName.text)

end EventType

/-- The registry of event types, with `fnmatch`. -/
structure Registry where
  types : List EventType
  /-- `max_severities`, which has every event type. -/
  maxSeverities : String → Severity
  fnmatch : String → String → Bool
  exact_of_plain : ∀ {pattern : String}, IsPlain pattern → ∀ name,
    fnmatch name pattern = true ↔ name = pattern

/-- A rule as `limit_rules` has it. -/
structure LimitRule where
  pattern : String
  severity : Severity
  deriving DecidableEq

/-- `rule.split("=", 1)`, when there are two parts. -/
def splitRule (rule : String) : Option (String × String) :=
  match rule.toList.dropWhile (· != '=') with
  | [] => none
  | _ :: rest => some (String.ofList (rule.toList.takeWhile (· != '=')), String.ofList rest)

/-- How `add_severity_limit_rules` reads a rule; what it cannot read it only logs. -/
def readRule (rule : String) : Option LimitRule := do
  let (pattern, severity) ← splitRule rule
  let severity ← Severity.ofName (strip severity)
  some ⟨strip pattern, severity⟩

/-- One round of `add_severity_limit_rules`. -/
def addSeverityLimitRule (limitRules : List LimitRule) (rule : String) : List LimitRule :=
  match readRule rule with
  | some limit => limit :: limitRules
  | none => limitRules

namespace Registry

/-- `fnmatch.filter(keys, pattern)` is not empty. -/
def hits (registry : Registry) (pattern : String) (event : EventType) : Bool :=
  event.keys.any fun key => registry.fnmatch key pattern

def maxSeverity (registry : Registry) (limitRules : List LimitRule) (event : EventType) :
    Severity :=
  match limitRules.find? fun rule => registry.hits rule.pattern event with
  | some rule => rule.severity
  | none => registry.maxSeverities event.className

end Registry

end Sct.Events
