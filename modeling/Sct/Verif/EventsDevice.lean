import Sct.Events.EventsDevice
import Sct.Lib.DictOrder

/-!
# Which events the device passes on

What the device holds under one uuid depends only on the messages with that uuid and on the
collections of old filters: `heldAfter` follows it alone, with the place in the stream since which
it is held. The dictionary of the device is those records in the order of their places
(`Represents`), one step for each message and by induction for each stream. So the severity a
passed event leaves with is that of the matching changer held since the latest message.
-/

open List

namespace Sct.Events

/-- A filter the device holds, and the place in the stream since which it does. -/
structure Held where
  since : Nat
  filter : Filter

/-- What a filter message at a place leaves of what was held under its uuid. -/
def Held.filtered (place : Nat) (filter : Filter) : Option Held → Option Held
  | none => if filter.clearFilter ∧ filter.expires = none then none else some ⟨place, filter⟩
  | some held =>
    if filter.clearFilter ∧ filter.expires = none then none
    else if filter.clearFilter then
      some { held with filter := { held.filter with expireTime := filter.expireTime } }
    else some { held with filter }

def Held.collected (collects : Option Rat) (held : Option Held) : Option Held :=
  match collects with
  | some now => held.filter fun held => !held.filter.isDeceased now
  | none => held

/-- What a message at a place leaves under a uuid. -/
def Held.next (uuid : String) (place : Nat) (held : Option Held) (message : Message) :
    Option Held :=
  let held := Held.collected message.collects held
  match message.arrival with
  | .filter filter => if filter.uuid = uuid then Held.filtered place filter held else held
  | _ => held

/-- What a stream leaves under a uuid, from a place on. -/
def heldFrom (uuid : String) (place : Nat) (held : Option Held) : List Message → Option Held
  | [] => held
  | message :: rest => heldFrom uuid (place + 1) (Held.next uuid place held message) rest

def heldAfter (stream : List Message) (uuid : String) : Option Held := heldFrom uuid 0 none stream

def FilterBody.newSeverity : FilterBody → Option Severity
  | severityChanger newSeverity _ _ => some newSeverity
  | _ => none

/-- A filter is in effect at the timestamp of an event unless it expired before. -/
def Filter.InEffect (filter : Filter) (event : Event) : Prop :=
  ∀ expireTime, filter.expires = some expireTime → event.timestamp ≠ 0 →
    event.timestamp ≤ expireTime

/-- A suppressing filter is in effect and matches the event. -/
structure Filter.Suppresses (filter : Filter) (event : Event) : Prop where
  suppressing : filter.body.newSeverity = none
  inEffect : filter.InEffect event
  matching : filter.body.matches event = true

/-- A severity changer is in effect and matches the event. -/
structure Filter.Changes (filter : Filter) (event : Event) (severity : Severity) : Prop where
  changer : filter.body.newSeverity = some severity
  inEffect : filter.InEffect event
  matching : filter.body.matches event = true

/-- The severity given to an event: that of the matching changer held since the latest message,
or its own. -/
inductive Given (held : String → Option Held) (event : Event) : Severity → Prop
  | changed {uuid : String} {last : Held} {severity : Severity} (isHeld : held uuid = some last)
      (changes : last.filter.Changes event severity)
      (latest : ∀ other entry given, held other = some entry → entry.filter.Changes event given →
        entry.since ≤ last.since) : Given held event severity
  | own (none : ∀ uuid entry given, held uuid = some entry → ¬ entry.filter.Changes event given) :
      Given held event event.severity

def Severity.cap (severity highest : Severity) : Severity :=
  if severity.value ≤ highest.value then severity else highest

/-- An event is passed on as another: nothing held suppresses it, and the other has the severity
given, capped. -/
structure PassedOn (maxSeverity : EventKind → Severity) (held : String → Option Held)
    (event passed : Event) : Prop where
  unsuppressed : ∀ uuid entry, held uuid = some entry → ¬ entry.filter.Suppresses event
  severity : ∃ severity, Given held event severity ∧
    passed = { event with severity := severity.cap (maxSeverity event.kind) }

/-- Whether a filter matches an event does not depend on its severity. -/
def Filter.Blind (filter : Filter) (event : Event) : Prop :=
  ∀ severity, filter.body.matches { event with severity } = filter.body.matches event

/-- No filter of a stream tests the severity of an event of the stream. -/
def SeverityBlind (stream : List Message) : Prop :=
  ∀ message ∈ stream, ∀ filter, message.arrival = .filter filter →
    ∀ other ∈ stream, ∀ event, other.arrival = .event event → filter.Blind event

variable {filter : Filter} {event : Event}

lemma isOver_eq_false_iff : filter.isOver event = false ↔ filter.InEffect event := by
  unfold Filter.isOver Filter.InEffect
  cases filter.expires with
  | none => simp
  | some expireTime =>
    simp only [ne_eq, decide_not, Bool.and_eq_false_imp, Bool.not_eq_eq_eq_not, Bool.not_true,
      decide_eq_false_iff_not, Rat.not_lt, Option.some.injEq, forall_eq']

lemma inEffect_and_matches :
    (!filter.isOver event && filter.body.matches event) = true ↔
      filter.InEffect event ∧ filter.body.matches event = true := by
  rw [Bool.and_eq_true, Bool.not_eq_true', isOver_eq_false_iff]

def Filter.change (event : Event) (filter : Filter) : Option Severity :=
  if !filter.isOver event && filter.body.matches event then filter.body.newSeverity else none

lemma change_eq_some_iff {severity : Severity} :
    filter.change event = some severity ↔ filter.Changes event severity := by
  unfold Filter.change
  rw [Option.ite_none_right_eq_some, inEffect_and_matches]
  exact ⟨fun all => ⟨all.2, all.1.1, all.1.2⟩,
    fun changes => ⟨⟨changes.inEffect, changes.matching⟩, changes.changer⟩⟩

lemma change_eq_none_iff :
    filter.change event = none ↔ ∀ severity, ¬ filter.Changes event severity := by
  rw [Option.eq_none_iff_forall_ne_some]
  exact forall_congr' fun severity => not_congr change_eq_some_iff

section Evaluation

lemma Filter.Blind.evalFilter_of_suppresses (blind : filter.Blind event)
    (suppresses : filter.Suppresses event) (current : Severity) :
    (filter.evalFilter { event with severity := current }).1 = true := by
  have result := inEffect_and_matches.mpr ⟨suppresses.inEffect, suppresses.matching⟩
  have suppressing := suppresses.suppressing
  rw [← blind current] at result
  unfold Filter.evalFilter
  cases body : filter.body with
  | db | events =>
    rw [body] at result
    exact result
  | severityChanger => rw [body] at suppressing; cases suppressing

lemma Filter.Blind.evalFilter_of_unsuppressed (blind : filter.Blind event)
    (unsuppressed : ¬ filter.Suppresses event) (current : Severity) :
    filter.evalFilter { event with severity := current } =
      (false, { event with severity := (filter.change event).getD current }) := by
  have same : filter.isOver { event with severity := current } = filter.isOver event := rfl
  unfold Filter.evalFilter Filter.change
  rw [same, blind current]
  cases result : !filter.isOver event && filter.body.matches event with
  | false => cases filter.body <;> rfl
  | true =>
    obtain ⟨inEffect, matching⟩ := inEffect_and_matches.mp result
    cases body : filter.body with
    | db | events => exact absurd ⟨by rw [body]; rfl, inEffect, matching⟩ unsuppressed
    | severityChanger => rfl

variable {filters : List Filter} (blind : ∀ filter ∈ filters, filter.Blind event)

include blind

/-- A filter that suppresses the event ends the evaluation, whatever severity the event has got
on the way. -/
lemma evalFilters_of_suppresses (listed : filter ∈ filters) (suppresses : filter.Suppresses event)
    (current : Severity) : (evalFilters filters { event with severity := current }).1 = true := by
  induction filters generalizing current with
  | nil => cases listed
  | cons first rest ih =>
    have blindFirst := blind first mem_cons_self
    rw [evalFilters]
    by_cases ends : first.Suppresses event
    · simp only [blindFirst.evalFilter_of_suppresses ends current, if_true]
    · rw [blindFirst.evalFilter_of_unsuppressed ends current]
      have later : filter ∈ rest :=
        (mem_cons.mp listed).resolve_left fun same => ends (same ▸ suppresses)
      exact ih (fun filter present => blind filter (mem_cons_of_mem _ present)) later _

lemma evalFilters_of_unsuppressed (unsuppressed : ∀ filter ∈ filters, ¬ filter.Suppresses event)
    (current : Severity) :
    evalFilters filters { event with severity := current } =
      (false, { event with
        severity := (filters.filterMap (Filter.change event)).getLast?.getD current }) := by
  induction filters generalizing current with
  | nil => rfl
  | cons first rest ih =>
    rw [evalFilters, (blind first mem_cons_self).evalFilter_of_unsuppressed
      (unsuppressed first mem_cons_self) current]
    have continues := ih (fun filter present => blind filter (mem_cons_of_mem _ present))
      (fun filter present => unsuppressed filter (mem_cons_of_mem _ present))
      ((first.change event).getD current)
    refine continues.trans ?_
    cases given : first.change event with
    | none => rw [filterMap_cons_none given, Option.getD_none]
    | some severity => rw [filterMap_cons_some given, getLast?_cons, Option.getD_some, Option.getD_some]

end Evaluation

/-- The device's dictionary is what is held under each uuid, in the order of the places. -/
structure Represents (place : Nat) (filters : Filters) (held : String → Option Held)
    (placed : Dict String Held) : Prop where
  filters_eq : filters = placed.mapValues Held.filter
  get_eq : ∀ uuid, placed.get uuid = held uuid
  ordered : placed.InOrder Held.since place

variable {place : Nat} {filters : Filters} {held : String → Option Held}
  {placed : Dict String Held}

section Steps

variable (represents : Represents place filters held placed)
include represents

lemma represents_collect (collects : Option Rat) :
    ∃ placed, Represents place (collect collects filters)
      (fun uuid => Held.collected collects (held uuid)) placed := by
  cases collects with
  | none => exact ⟨placed, represents⟩
  | some now =>
    refine ⟨placed.filterValues fun held => !held.filter.isDeceased now, ?_, ?_, ?_⟩
    · rw [Dict.mapValues_filterValues Held.filter (fun filter => !filter.isDeceased now),
        ← represents.filters_eq]
      rfl
    · intro uuid
      rw [Dict.get_filterValues, represents.get_eq]
      rfl
    · exact represents.ordered.of_sublist filter_sublist

lemma represents_applyFilter (filter : Filter) :
    ∃ placed, Represents (place + 1) (applyFilter filters filter)
      (fun uuid => if filter.uuid = uuid then Held.filtered place filter (held uuid)
        else held uuid) placed := by
  have stored : filters.get filter.uuid = (held filter.uuid).map Held.filter := by
    rw [represents.filters_eq, Dict.get_mapValues, represents.get_eq]
  have present := represents.get_eq filter.uuid
  -- Every branch writes the record of this uuid, so the other records are read through.
  have others (entry : Held) (result : Held.filtered place filter (held filter.uuid) = some entry)
      (uuid : String) : (placed.set filter.uuid entry).get uuid =
        if filter.uuid = uuid then Held.filtered place filter (held uuid) else held uuid := by
    rw [Dict.get_set, represents.get_eq]
    by_cases same : filter.uuid = uuid
    · subst same
      rw [if_pos rfl, if_pos rfl, result]
    · rw [if_neg (Ne.symm same), if_neg same]
  unfold applyFilter
  by_cases cancels : filter.clearFilter ∧ filter.expires = none
  · rw [if_pos cancels]
    refine ⟨placed.erase filter.uuid, ?_, ?_, (represents.ordered.of_sublist filter_sublist).succ⟩
    · rw [Dict.mapValues_erase, ← represents.filters_eq]
    · intro uuid
      rw [Dict.get_erase, represents.get_eq]
      by_cases same : filter.uuid = uuid
      · subst same
        cases held filter.uuid <;> simp only [Held.filtered, if_pos cancels]
      · rw [if_neg (Ne.symm same), if_neg same]
  · rw [if_neg cancels, stored]
    cases current : held filter.uuid with
    | none =>
      have result : Held.filtered place filter (held filter.uuid) = some ⟨place, filter⟩ := by
        rw [current, Held.filtered, if_neg cancels]
      refine ⟨placed.set filter.uuid ⟨place, filter⟩, ?_, others _ result, ?_⟩
      · rw [Dict.mapValues_set, ← represents.filters_eq]
        cases filter.clearFilter <;> rfl
      · exact represents.ordered.set_new (present.trans current) rfl
    | some entry =>
      cases clear : filter.clearFilter with
      | true =>
        have result : Held.filtered place filter (held filter.uuid) = some { entry with
            filter := { entry.filter with expireTime := filter.expireTime } } := by
          rw [current, Held.filtered, if_neg cancels, if_pos clear]
        refine ⟨_, ?_, others _ result, ?_⟩
        · rw [Dict.mapValues_set, ← represents.filters_eq]
          rfl
        · apply Dict.InOrder.succ
          exact represents.ordered.set_present (present.trans current) (by rfl)
      | false =>
        have result : Held.filtered place filter (held filter.uuid) =
            some { entry with filter } := by
          rw [current, Held.filtered, if_neg cancels, clear, if_neg Bool.false_ne_true]
        refine ⟨_, ?_, others _ result, ?_⟩
        · rw [Dict.mapValues_set, ← represents.filters_eq]
        · apply Dict.InOrder.succ
          exact represents.ordered.set_present (present.trans current) (by rfl)

lemma represents_applyMessage (message : Message) :
    ∃ placed, Represents (place + 1) (applyMessage filters message)
      (fun uuid => Held.next uuid place (held uuid) message) placed := by
  obtain ⟨placed, collected⟩ := represents_collect represents message.collects
  have unchanged := Represents.mk collected.filters_eq collected.get_eq collected.ordered.succ
  unfold applyMessage Held.next
  cases message.arrival with
  | event event => exact ⟨placed, unchanged⟩
  | system => exact ⟨placed, unchanged⟩
  | filter filter => exact represents_applyFilter collected filter

end Steps

lemma represents_foldl (stream : List Message)
    (represents : Represents place filters held placed) :
    ∃ placed, Represents (place + stream.length) (stream.foldl applyMessage filters)
      (fun uuid => heldFrom uuid place (held uuid) stream) placed := by
  induction stream generalizing place filters held placed with
  | nil => exact ⟨placed, represents⟩
  | cons message rest ih =>
    obtain ⟨placed, next⟩ := represents_applyMessage represents message
    rw [length_cons, Nat.add_comm rest.length, ← Nat.add_assoc]
    exact ih next

lemma represents_stream (stream : List Message) :
    ∃ placed, Represents stream.length (stream.foldl applyMessage Dict.empty) (heldAfter stream)
      placed := by
  have start : Represents 0 Dict.empty (fun _ => none) Dict.empty :=
    ⟨rfl, fun _ => rfl, Pairwise.nil, fun _ listed => absurd listed not_mem_nil⟩
  have after := represents_foldl stream start
  rw [Nat.zero_add] at after
  exact after

lemma getElem?_turns (maxSeverity : EventKind → Severity) (filters : Filters)
    (stream : List Message) (index : Nat) :
    (turns maxSeverity filters stream)[index]? =
      (stream[index]?).map
        (yielded maxSeverity ((stream.take (index + 1)).foldl applyMessage filters)) := by
  induction stream generalizing filters index with
  | nil => rfl
  | cons message rest ih =>
    cases index with
    | zero => rfl
    | succ index =>
      rw [turns, getElem?_cons_succ, getElem?_cons_succ, ih, take_succ_cons,
        foldl_cons]

variable {uuid : String} {message : Message}

lemma next_body {held : Option Held} {after : Held}
    (left : Held.next uuid place held message = some after) :
    (∃ before, held = some before ∧ before.filter.body = after.filter.body) ∨
      ∃ filter, message.arrival = .filter filter ∧ filter.body = after.filter.body := by
  have collected {entry : Held} (kept : Held.collected message.collects held = some entry) :
      held = some entry := by
    unfold Held.collected at kept
    split at kept
    · exact (Option.filter_eq_some_iff.mp kept).1
    · exact kept
  unfold Held.next at left
  cases arrival : message.arrival with
  | event event =>
    rw [arrival] at left
    exact .inl ⟨after, collected left, rfl⟩
  | system =>
    rw [arrival] at left
    exact .inl ⟨after, collected left, rfl⟩
  | filter filter =>
    rw [arrival] at left
    dsimp only at left
    split at left
    · cases current : Held.collected message.collects held with
      | none =>
        rw [current, Held.filtered] at left
        split at left
        · cases left
        · cases left
          exact .inr ⟨filter, rfl, rfl⟩
      | some entry =>
        rw [current, Held.filtered] at left
        split at left
        · cases left
        · split at left
          · cases left
            exact .inl ⟨entry, collected current, rfl⟩
          · cases left
            exact .inr ⟨filter, rfl, rfl⟩
    · exact .inl ⟨after, collected left, rfl⟩

variable {stream : List Message} {entry : Held}

lemma heldFrom_body {held : Option Held} (found : heldFrom uuid place held stream = some entry) :
    (∃ before, held = some before ∧ before.filter.body = entry.filter.body) ∨
      ∃ message ∈ stream, ∃ filter, message.arrival = .filter filter ∧
        filter.body = entry.filter.body := by
  induction stream generalizing place held with
  | nil => exact .inl ⟨entry, found, rfl⟩
  | cons message rest ih =>
    rcases ih found with ⟨between, next, body⟩ | ⟨later, listed, came⟩
    · rcases next_body next with ⟨before, start, same⟩ | ⟨filter, arrival, same⟩
      · exact .inl ⟨before, start, same.trans body⟩
      · exact .inr ⟨message, mem_cons_self, filter, arrival, same.trans body⟩
    · exact .inr ⟨later, mem_cons_of_mem _ listed, came⟩

section Yield

variable (represents : Represents place filters held placed)

include represents

lemma Represents.values_eq :
    filters.entries.map Prod.snd = placed.entries.map fun entry => entry.2.filter := by
  rw [represents.filters_eq, Dict.mapValues, map_map]
  rfl

lemma Represents.mem_iff
    (uuid : String) (entry : Held) : (uuid, entry) ∈ placed.entries ↔ held uuid = some entry := by
  rw [Dict.mem_entries_iff, represents.get_eq]

lemma Represents.mem_values_iff (filter : Filter) : filter ∈ filters.entries.map Prod.snd ↔
      ∃ uuid entry, held uuid = some entry ∧ entry.filter = filter := by
  rw [represents.values_eq, mem_map]
  constructor
  · rintro ⟨⟨uuid, entry⟩, listed, equal⟩
    exact ⟨uuid, entry, (represents.mem_iff uuid entry).mp listed, equal⟩
  · rintro ⟨uuid, entry, isHeld, equal⟩
    exact ⟨(uuid, entry), (represents.mem_iff uuid entry).mpr isHeld, equal⟩

lemma Represents.given_iff (severity : Severity) :
    Given held event severity ↔
      ((filters.entries.map Prod.snd).filterMap (Filter.change event)).getLast?.getD
        event.severity = severity := by
  have last := Dict.getLast?_filterMap_eq_some_iff represents.ordered.increasing
    (fun entry => entry.2.filter.change event)
  rw [represents.values_eq, filterMap_map]
  constructor
  · rintro (⟨isHeld, changes, latest⟩ | unchanged)
    · have found := (last severity).mpr ⟨_, (represents.mem_iff _ _).mpr isHeld,
        change_eq_some_iff.mpr changes, ?_⟩
      · exact (congrArg (Option.getD · event.severity) found)
      · rintro ⟨uuid, entry⟩ listed some
        obtain ⟨given, change⟩ := Option.ne_none_iff_exists'.mp some
        exact latest uuid entry given ((represents.mem_iff uuid entry).mp listed)
          (change_eq_some_iff.mp change)
    · have empty : placed.entries.filterMap (fun entry => entry.2.filter.change event) = [] := by
        rw [filterMap_eq_nil_iff]
        rintro ⟨uuid, entry⟩ listed
        rw [change_eq_none_iff]
        intro given
        exact unchanged uuid entry given ((represents.mem_iff uuid entry).mp listed)
      exact congrArg (fun found : List Severity => found.getLast?.getD event.severity) empty
  · intro result
    change (placed.entries.filterMap fun entry => entry.2.filter.change event).getLast?.getD _ = _
      at result
    cases found : (placed.entries.filterMap
        fun entry => entry.2.filter.change event).getLast? with
    | none =>
      rw [found, Option.getD_none] at result
      rw [← result]
      refine .own fun uuid entry given isHeld changes => ?_
      have empty := getLast?_eq_none_iff.mp found
      have nothing := filterMap_eq_nil_iff.mp empty (uuid, entry)
        ((represents.mem_iff uuid entry).mpr isHeld)
      exact change_eq_none_iff.mp nothing given changes
    | some severity =>
      rw [found, Option.getD_some] at result
      rw [← result]
      obtain ⟨⟨uuid, entry⟩, listed, change, latest⟩ := (last severity).mp found
      refine .changed ((represents.mem_iff uuid entry).mp listed) (change_eq_some_iff.mp change) ?_
      intro other later given isHeld changes
      refine latest (other, later) ((represents.mem_iff other later).mpr isHeld) ?_
      rw [change_eq_some_iff.mpr changes]
      exact Option.some_ne_none given

end Yield

lemma limitSeverity_eq (maxSeverity : EventKind → Severity) (severity : Severity) :
    limitSeverity maxSeverity { event with severity } =
      { event with severity := severity.cap (maxSeverity event.kind) } := by
  unfold limitSeverity Severity.cap
  by_cases above : (maxSeverity event.kind).value < severity.value
  · rw [if_pos above, if_neg (Int.not_le.mpr above)]
  · rw [if_neg above, if_pos (Int.not_lt.mp above)]

lemma Represents.yielded_iff (represents : Represents place filters held placed)
    (blind : ∀ uuid entry, held uuid = some entry → entry.filter.Blind event)
    (maxSeverity : EventKind → Severity) {message : Message}
    (arrival : message.arrival = .event event) (passed : Event) :
    yielded maxSeverity filters message = some passed ↔
      PassedOn maxSeverity held event passed := by
  have blindValues : ∀ filter ∈ filters.entries.map Prod.snd, filter.Blind event := by
    intro filter listed
    obtain ⟨uuid, entry, isHeld, rfl⟩ := (represents.mem_values_iff filter).mp listed
    exact blind uuid entry isHeld
  rw [yielded, arrival]
  dsimp only
  by_cases suppressed : ∃ filter ∈ filters.entries.map Prod.snd, filter.Suppresses event
  · obtain ⟨filter, listed, suppresses⟩ := suppressed
    obtain ⟨uuid, entry, isHeld, rfl⟩ := (represents.mem_values_iff filter).mp listed
    have ends := evalFilters_of_suppresses blindValues listed suppresses event.severity
    obtain ⟨left, evaluated⟩ :
        ∃ left, evalFilters (filters.entries.map Prod.snd) event = (true, left) :=
      ⟨_, Prod.ext ends rfl⟩
    rw [evaluated]
    constructor
    · intro absurdity
      cases absurdity
    · intro passedOn
      exact absurd suppresses (passedOn.unsuppressed uuid entry isHeld)
  · have unsuppressed : ∀ filter ∈ filters.entries.map Prod.snd, ¬ filter.Suppresses event :=
      fun filter listed suppresses => suppressed ⟨filter, listed, suppresses⟩
    have evaluated := evalFilters_of_unsuppressed blindValues unsuppressed event.severity
    rw [evaluated]
    dsimp only
    rw [limitSeverity_eq, Option.some.injEq]
    constructor
    · rintro rfl
      refine ⟨fun uuid entry isHeld => ?_, _, (represents.given_iff _).mpr rfl, rfl⟩
      exact unsuppressed entry.filter
        ((represents.mem_values_iff _).mpr ⟨uuid, entry, isHeld, rfl⟩)
    · rintro ⟨-, severity, given, rfl⟩
      rw [(represents.given_iff severity).mp given]

/-- An event is yielded exactly when nothing held suppresses it, and with the severity of the
matching changer held since the latest message, capped. -/
theorem outboundEvents_eq_some_iff (maxSeverity : EventKind → Severity) (stream : List Message)
    (blind : SeverityBlind stream) (index : Nat) (passed : Event) :
    (outboundEvents maxSeverity stream)[index]? = some (some passed) ↔
      ∃ message event, stream[index]? = some message ∧ message.arrival = .event event ∧
        PassedOn maxSeverity (heldAfter (stream.take (index + 1))) event passed := by
  obtain ⟨placed, represents⟩ := represents_stream (stream.take (index + 1))
  rw [outboundEvents, getElem?_turns]
  cases listed : stream[index]? with
  | none => simp
  | some message =>
    rw [Option.map_some, Option.some.injEq]
    cases arrival : message.arrival with
    | event event =>
      have unchanged : ∀ uuid entry, heldAfter (stream.take (index + 1)) uuid = some entry →
          entry.filter.Blind event := by
        intro uuid entry found severity
        rcases heldFrom_body found with ⟨before, absent, -⟩ | ⟨source, taken, filter, came, body⟩
        · cases absent
        · rw [← body]
          exact blind source (mem_of_mem_take taken) filter came message
            (mem_of_getElem? listed) event arrival severity
      rw [represents.yielded_iff unchanged maxSeverity arrival]
      constructor
      · intro passedOn
        exact ⟨message, event, rfl, arrival, passedOn⟩
      · rintro ⟨other, found, same, came, passedOn⟩
        cases same
        rw [arrival] at came
        cases came
        exact passedOn
    | filter filter =>
      rw [yielded, arrival]
      constructor
      · intro absurdity
        cases absurdity
      · rintro ⟨other, event, same, came, -⟩
        cases same
        rw [arrival] at came
        cases came
    | system =>
      rw [yielded, arrival]
      constructor
      · intro absurdity
        cases absurdity
      · rintro ⟨other, event, same, came, -⟩
        cases same
        rw [arrival] at came
        cases came

def coreDump : Event where
  kind := ⟨"CoreDumpEvent", "CoreDumpEvent", none, none⟩
  timestamp := 10
  severity := .error
  log := none
  shown := fun _ => "CoreDumpEvent"

def coreDumpFilter (expireTime : Option Rat) (clearFilter : Bool) : Filter :=
  ⟨"cores", expireTime, clearFilter, .events (some "CoreDumpEvent.") none⟩

def coreDumpChanger (uuid : String) (severity : Severity) : Filter :=
  ⟨uuid, none, false, .severityChanger severity (some "CoreDumpEvent.") none⟩

def repeatedStream : List Message :=
  [⟨none, .filter (coreDumpChanger "first" .warning)⟩,
    ⟨none, .filter (coreDumpChanger "second" .normal)⟩,
    ⟨none, .filter (coreDumpChanger "first" .warning)⟩, ⟨none, .event coreDump⟩]

lemma repeatedStream_blind : SeverityBlind repeatedStream := by
  intro message listed filter arrival other _ event _ severity
  simp only [repeatedStream, mem_cons, not_mem_nil, or_false] at listed
  rcases listed with rfl | rfl | rfl | rfl
  · cases arrival
    rfl
  · cases arrival
    rfl
  · cases arrival
    rfl
  · cases arrival

theorem repeatedStream_passedOn : SeverityBlind repeatedStream ∧
    ∃ message event, repeatedStream[3]? = some message ∧ message.arrival = .event event ∧
      PassedOn (fun _ => .critical) (heldAfter (repeatedStream.take 4)) event
        { coreDump with severity := .normal } :=
  ⟨repeatedStream_blind,
    (outboundEvents_eq_some_iff (fun _ => .critical) repeatedStream repeatedStream_blind 3
      { coreDump with severity := .normal }).mp rfl⟩

/-- What a filter message leaves if a registration counts since its own message and a cancellation
only ends or limits a registration. -/
def Held.registered (place : Nat) (filter : Filter) (held : Option Held) : Option Held :=
  if filter.clearFilter then
    filter.expires.bind fun _ => held.map fun held =>
      { held with filter := { held.filter with expireTime := filter.expireTime } }
  else some ⟨place, filter⟩

/-- What is registered under a uuid after a stream, if only cancellations end a registration. -/
def registeredFrom (uuid : String) (place : Nat) (held : Option Held) :
    List Message → Option Held
  | [] => held
  | message :: rest =>
    let held := match message.arrival with
      | .filter filter => if filter.uuid = uuid then Held.registered place filter held else held
      | _ => held
    registeredFrom uuid (place + 1) held rest

def registeredAfter (stream : List Message) (uuid : String) : Option Held :=
  registeredFrom uuid 0 none stream

def collectedStream : List Message :=
  [⟨none, .filter (coreDumpFilter none false)⟩, ⟨none, .filter (coreDumpFilter (some 20) true)⟩,
    ⟨some 700, .event coreDump⟩]

def cancelledStream : List Message :=
  [⟨none, .filter (coreDumpFilter (some 20) true)⟩, ⟨none, .event coreDump⟩]

lemma coreDumpFilter_suppresses :
    (coreDumpFilter (some 20) false).Suppresses coreDump := by
  refine ⟨rfl, isOver_eq_false_iff.mp (by decide), by decide⟩

variable (uuid)

lemma coreDumpChanger_changes (severity : Severity) :
    (coreDumpChanger uuid severity).Changes coreDump severity := by
  refine ⟨rfl, isOver_eq_false_iff.mp rfl, ?_⟩
  change matchesEvent (some "CoreDumpEvent.") none coreDump = true
  decide

lemma repeatedStream_registered :
    registeredAfter repeatedStream uuid =
      if "first" = uuid then some ⟨2, coreDumpChanger "first" .warning⟩
      else if "second" = uuid then some ⟨1, coreDumpChanger "second" .normal⟩
      else none := by
  by_cases first : "first" = uuid
  · subst first
    rfl
  · by_cases second : "second" = uuid
    · subst second
      rfl
    · simp [registeredAfter, registeredFrom, repeatedStream, coreDumpChanger, first, second]

/-- A collected filter no longer suppresses a late event from before its expiry, a cancellation
of a filter that is not held registers it, and a changer registered again keeps its place. -/
theorem registrations_not_held :
    ((outboundEvents (fun _ => .critical) collectedStream)[2]?.join.isSome = true ∧
      ∀ passed, ¬ PassedOn (fun _ => .critical) (registeredAfter collectedStream) coreDump passed) ∧
    ((outboundEvents (fun _ => .critical) cancelledStream)[1]? = some none ∧
      PassedOn (fun _ => .critical) (registeredAfter cancelledStream) coreDump coreDump) ∧
    ((outboundEvents (fun _ => .critical) repeatedStream)[3]? =
        some (some { coreDump with severity := .normal }) ∧
      ∀ passed, PassedOn (fun _ => .critical) (registeredAfter repeatedStream) coreDump passed →
        passed.severity = .warning) := by
  refine ⟨⟨by decide +kernel, ?_⟩, ⟨rfl, ?_⟩, rfl, ?_⟩
  · intro passed passedOn
    exact passedOn.unsuppressed "cores" ⟨0, coreDumpFilter (some 20) false⟩ rfl
      coreDumpFilter_suppresses
  · have nothing (uuid : String) : registeredAfter cancelledStream uuid = none := by
      exact ite_self _
    refine ⟨fun uuid entry found => ?_, .error, .own fun uuid entry given found => ?_, rfl⟩
    · rw [nothing] at found
      cases found
    · rw [nothing] at found
      cases found
  · rintro passed ⟨-, severity, given, rfl⟩
    have first : registeredAfter repeatedStream "first" =
        some ⟨2, coreDumpChanger "first" .warning⟩ := rfl
    cases given with
    | own unchanged =>
      exact absurd (coreDumpChanger_changes "first" .warning) (unchanged "first" _ _ first)
    | @changed uuid last _ isHeld changes latest =>
      have after := latest "first" _ _ first (coreDumpChanger_changes "first" .warning)
      have given := changes.changer
      rw [repeatedStream_registered] at isHeld
      split at isHeld
      · cases isHeld
        cases given
        rfl
      · split at isHeld
        · cases isHeld
          exact absurd after (by decide)
        · cases isHeld

end Sct.Events
