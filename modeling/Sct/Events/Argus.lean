import Mathlib.Data.Rat.Defs
import Sct.Lib.Dict

/-!
# Aggregating events for Argus

The loop of `ArgusEventAggregator.run` in `sdcm/sct_events/argus.py`. The clock is read when an
event is checked, and once more when it is recorded: both readings come with the event.
-/

namespace Sct.Events

/-- What the key of an event is made of. -/
structure SctArgusEvent where
  runId : String
  severity : String
  eventType : String
  eventId : String
  deriving DecidableEq, Repr

abbrev SctArgusEventKey := String × String × String × String

def uniqueKey (event : SctArgusEvent) : SctArgusEventKey :=
  (event.runId, event.severity, event.eventType, event.eventId)

structure ArgusArrival where
  event : SctArgusEvent
  checked : Rat
  recorded : Rat

def argusEventAggregatorTimeWindow : Rat := 90

/-- Which events go to the posting queue. -/
def aggregate (timeWindowCounters : Dict SctArgusEventKey Rat) :
    List ArgusArrival → List Bool
  | [] => []
  | arrival :: rest =>
    let key := uniqueKey arrival.event
    if arrival.checked - (timeWindowCounters.get key).getD 0 > argusEventAggregatorTimeWindow then
      true :: aggregate (timeWindowCounters.set key arrival.recorded) rest
    else false :: aggregate timeWindowCounters rest

end Sct.Events
