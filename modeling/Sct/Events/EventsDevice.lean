import Mathlib.Data.Rat.Defs
import Sct.Lib.Dict
import Sct.Lib.Words

/-!
# The events device

The loop of `outbound_events` in `sdcm/sct_events/events_device.py`, with the filters of
`sdcm/sct_events/base.py` and `sdcm/sct_events/filters.py`. Compiled regular expressions are
predicates on texts. The clock is part of the stream: every message says whether the collection of
old filters is due before it, and at what time. The maximum severity configured for a kind of
event is given as a function; the rules it is computed from are left out, and so is the action log.
-/

namespace Sct.Events

inductive Severity where
  | suppress
  | debug
  | unknown
  | normal
  | warning
  | error
  | critical
  deriving DecidableEq, Repr

def Severity.value : Severity → Int
  | suppress => -2
  | debug => -1
  | unknown => 0
  | normal => 1
  | warning => 2
  | error => 3
  | critical => 4

structure EventKind where
  className : String
  base : String
  type : Option String
  subtype : Option String

/-- What an event read from a log has besides. -/
structure LogInfo where
  line : Option String
  node : Option String

structure Event where
  kind : EventKind
  timestamp : Rat
  severity : Severity
  /-- The log fields, of a `LogEventProtocol`. -/
  log : Option LogInfo
  /-- `str(event)`, which shows the severity. -/
  shown : Severity → String

/-- What the classes of filters test, and do. -/
inductive FilterBody where
  | db (filterType : Option String) (regex : Option (String → Bool)) (filterNode : Option String)
  | events (eventClass : Option String) (regex : Option (String → Bool))
  | severityChanger (newSeverity : Severity) (eventClass : Option String)
      (regex : Option (String → Bool))

structure Filter where
  uuid : String
  expireTime : Option Rat
  clearFilter : Bool
  body : FilterBody

/-- `expire_time`, where it counts as set. -/
def Filter.expires (filter : Filter) : Option Rat := filter.expireTime.filter (· ≠ 0)

/-- `expire_time and event.timestamp and expire_time < event.timestamp`. -/
def Filter.isOver (filter : Filter) (event : Event) : Bool :=
  match filter.expires with
  | some expireTime => event.timestamp ≠ 0 && expireTime < event.timestamp
  | none => false

/-- The class test and the regular expression of `EventsFilter`. -/
def matchesEvent (eventClass : Option String) (regex : Option (String → Bool)) (event : Event) :
    Bool :=
  (match truthy eventClass with
    | some start => startsWith (event.kind.className ++ ".") start
    | none => true) &&
  (match regex with
    | some found => found (event.shown event.severity)
    | none => true)

/-- The tests of `DbEventsFilter`. -/
def matchesLog (filterType : Option String) (regex : Option (String → Bool))
    (filterNode : Option String) (event : Event) : Bool :=
  match event.log with
  | none => false
  | some log =>
    ((truthy filterType).isSome && filterType = event.kind.type) &&
    (match regex with
      | some found => found (log.line.getD "")
      | none => true) &&
    (match truthy filterNode with
      | some node => node ∈ words (log.node.getD "")
      | none => true)

def FilterBody.matches : FilterBody → Event → Bool
  | db filterType regex filterNode, event => matchesLog filterType regex filterNode event
  | events eventClass regex, event => matchesEvent eventClass regex event
  | severityChanger _ eventClass regex, event => matchesEvent eventClass regex event

/-- `eval_filter`: whether the event is filtered out, and the event with the severity it has
then. -/
def Filter.evalFilter (filter : Filter) (event : Event) : Bool × Event :=
  let result := !filter.isOver event && filter.body.matches event
  match filter.body with
  | .severityChanger newSeverity _ _ =>
    (false, if result then { event with severity := newSeverity } else event)
  | _ => (result, event)

/-- `any(f.eval_filter(obj) for f in filters.values())`. -/
def evalFilters : List Filter → Event → Bool × Event
  | [], event => (false, event)
  | filter :: rest, event =>
    let (filtered, event) := filter.evalFilter event
    if filtered then (true, event) else evalFilters rest event

def filterEventDecayTime : Rat := 600

def Filter.isDeceased (now : Rat) (filter : Filter) : Bool :=
  match filter.expires with
  | some expireTime => now ≥ expireTime + filterEventDecayTime
  | none => false

inductive Arrival where
  | event (event : Event)
  | filter (filter : Filter)
  | system

/-- A message: the time of the collection of old filters, if one is due, and what arrives. -/
structure Message where
  collects : Option Rat
  arrival : Arrival

abbrev Filters := Dict String Filter

def collect (collects : Option Rat) (filters : Filters) : Filters :=
  match collects with
  | some now => filters.filterValues fun filter => !filter.isDeceased now
  | none => filters

/-- What a filter message does to the filters. -/
def applyFilter (filters : Filters) (filter : Filter) : Filters :=
  if filter.clearFilter ∧ filter.expires = none then filters.erase filter.uuid
  else
    match filter.clearFilter, filters.get filter.uuid with
    | true, some stored =>
      filters.set filter.uuid { stored with expireTime := filter.expireTime }
    | _, _ => filters.set filter.uuid filter

/-- The filters after one turn of the loop of `outbound_events`. -/
def applyMessage (filters : Filters) (message : Message) : Filters :=
  let filters := collect message.collects filters
  match message.arrival with
  | .filter filter => applyFilter filters filter
  | _ => filters

variable (maxSeverity : EventKind → Severity)

/-- The cap on the severity of an event. -/
def limitSeverity (event : Event) : Event :=
  if (maxSeverity event.kind).value < event.severity.value then
    { event with severity := maxSeverity event.kind }
  else event

/-- What one turn yields, with the filters held then. -/
def yielded (filters : Filters) (message : Message) : Option Event :=
  match message.arrival with
  | .event event =>
    match evalFilters (filters.entries.map Prod.snd) event with
    | (true, _) => none
    | (false, event) => some (limitSeverity maxSeverity event)
  | _ => none

/-- The loop of `outbound_events`: what each turn yields. -/
def turns (maxSeverity : EventKind → Severity) (filters : Filters) :
    List Message → List (Option Event)
  | [] => []
  | message :: rest =>
    let filters := applyMessage filters message
    yielded maxSeverity filters message :: turns maxSeverity filters rest

/-- `outbound_events`: for each message of the stream, the event yielded on it. -/
def outboundEvents (stream : List Message) :
    List (Option Event) := turns maxSeverity Dict.empty stream

end Sct.Events
