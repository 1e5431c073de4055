import Sct.Events.Argus

/-!
# Which events Argus gets

A key that was not seen counts as last forwarded at time zero of the clock, so its first event is
dropped while the clock shows no more than the window. After that the counter of a key is the time
of its last forwarded event.
-/

namespace Sct.Events

/-- The rule: forward the first event of a key, and a later one when more than the window has passed
since the last one forwarded. `seen` are the keys so far, `sent` the times of the last ones. -/
def due (seen : List SctArgusEventKey)
    (sent : SctArgusEventKey → Option Rat) : List ArgusArrival → List Bool
  | [] => []
  | arrival :: rest =>
    let key := uniqueKey arrival.event
    let forwards := key ∉ seen ∨ ∃ last ∈ sent key,
      arrival.checked - last > argusEventAggregatorTimeWindow
    decide forwards :: due (key :: seen)
      (if forwards then Function.update sent key (some arrival.recorded) else sent) rest

/-- The clock shows more than the window at the first event of every key that was not seen. -/
def FirstsLate (seen : List SctArgusEventKey) : List ArgusArrival → Prop
  | [] => True
  | arrival :: rest =>
    (uniqueKey arrival.event ∉ seen → arrival.checked > argusEventAggregatorTimeWindow) ∧
      FirstsLate (uniqueKey arrival.event :: seen) rest

lemma aggregate_eq_due_iff {counters : Dict SctArgusEventKey Rat}
    {seen : List SctArgusEventKey}
    (known : ∀ key, key ∈ seen ↔ counters.get key ≠ none) (arrivals : List ArgusArrival) :
    aggregate counters arrivals = due seen counters.get arrivals ↔ FirstsLate seen arrivals := by
  induction arrivals generalizing counters seen with
  | nil => exact iff_of_true rfl trivial
  | cons arrival rest ih =>
    rw [aggregate, due, FirstsLate]
    generalize uniqueKey arrival.event = key
    -- The rule and the code go on alike once the event is forwarded.
    have forwarded := @ih (counters.set key arrival.recorded) (key :: seen) fun other => by
      by_cases same : other = key <;> simp [Dict.get_set, same, known]
    have updated : (counters.set key arrival.recorded).get =
        Function.update counters.get key (some arrival.recorded) := by
      funext other
      rw [Dict.get_set, Function.update_apply]
    rw [updated] at forwarded
    by_cases first : key ∈ seen
    · obtain ⟨last, held⟩ := Option.ne_none_iff_exists'.mp ((known key).mp first)
      have kept := @ih counters (key :: seen) fun other => by
        by_cases same : other = key <;> simp [same, ← known, first]
      by_cases late : arrival.checked - last > argusEventAggregatorTimeWindow
      · simp [first, held, late, forwarded]
      · simp [first, held, late, kept]
    · have free : counters.get key = none := not_not.mp (mt (known key).mpr first)
      have start : arrival.checked - 0 = arrival.checked := by
        rw [Rat.sub_eq_add_neg, Rat.neg_zero, Rat.add_zero]
      by_cases late : arrival.checked > argusEventAggregatorTimeWindow
      · simp [first, free, start, late, forwarded]
      · simp [first, free, start, late]

theorem aggregate_forwards_iff (arrivals : List ArgusArrival) :
    aggregate Dict.empty arrivals = due [] (fun _ => none) arrivals ↔ FirstsLate [] arrivals := by
  apply aggregate_eq_due_iff
  simp

/-- An event that arrives ten seconds after the clock started is not forwarded. -/
theorem early_event_dropped :
    aggregate Dict.empty [⟨⟨"run", "ERROR", "DatabaseLogEvent", "1"⟩, 10, 10⟩] = [false] ∧
      due [] (fun _ => none) [⟨⟨"run", "ERROR", "DatabaseLogEvent", "1"⟩, 10, 10⟩] = [true] := by
  decide +kernel

end Sct.Events
