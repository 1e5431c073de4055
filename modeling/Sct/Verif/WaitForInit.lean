import Sct.Cluster.WaitForInit

/-!
# The limits of severities after calls of `wait_for_init`

A rule at the front of the list changes the limit of the event types it matches only. A call owes
the limits it found; nested calls find what the call around them left, so after the last one the
limits are as before. A call that raises puts nothing back, and one that entered while limits were
lifted puts the lifted ones back.
-/

open List

namespace Sct.Events

/-! ## Rules -/

variable {pattern : String}

lemma splitRule_of_plain (plain : IsPlain pattern) (rest : String) :
    splitRule (pattern ++ "=" ++ rest) = some (pattern, rest) := by
  have passes : ∀ char ∈ pattern.toList, (char != '=') = true := by
    intro char listed
    have ordinary := plain.plain char listed
    apply bne_iff_ne.mpr
    intro equal
    subst equal
    exact absurd ordinary (by decide)
  have text : (pattern ++ "=" ++ rest).toList = pattern.toList ++ '=' :: rest.toList := by
    rw [String.toList_append, String.toList_append, append_assoc]
    rfl
  unfold splitRule
  rw [text, dropWhile_append_of_pos passes, takeWhile_append_of_pos passes]
  simp

lemma readRule_of_plain (plain : IsPlain pattern) (severity : Severity) :
    readRule (pattern ++ "=" ++ severity.name) = some ⟨pattern, severity⟩ := by
  unfold readRule
  rw [splitRule_of_plain plain]
  have word : IsWord severity.name := by cases severity <;> decide
  have named : Severity.ofName severity.name = some severity := by cases severity <;> decide
  simp [strip_of_isWord word, strip_of_isWord plain.word, named]

lemma IsPlain.dot {first second : String} (head : IsPlain first) (tail : IsPlain second) :
    IsPlain (first ++ "." ++ second) := by
  have text : (first ++ "." ++ second).toList = first.toList ++ '.' :: second.toList := by
    rw [String.toList_append, String.toList_append, append_assoc]
    rfl
  have parts : ∀ char ∈ (first ++ "." ++ second).toList,
      char ∈ first.toList ∨ char = '.' ∨ char ∈ second.toList := by
    intro char listed
    rw [text] at listed
    exact (mem_append.mp listed).imp_right mem_cons.mp
  refine ⟨⟨?_, ?_⟩, ?_⟩
  · rw [text]
    exact append_ne_nil_of_left_ne_nil head.word.nonempty _
  · intro char listed
    rcases parts char listed with early | rfl | late
    · exact head.word.solid char early
    · decide
    · exact tail.word.solid char late
  · intro char listed
    rcases parts char listed with early | rfl | late
    · exact head.plain char early
    · decide
    · exact tail.plain char late

lemma EventType.rulePattern_plain (event : EventType) : IsPlain event.rulePattern := by
  obtain ⟨_, base, type, subtype⟩ := event
  cases type with
  | none =>
    cases subtype with
    | none => simpa [rulePattern] using base.plain
    | some subtype => simpa [rulePattern] using base.plain.dot subtype.plain
  | some type =>
    cases subtype with
    | none => simpa [rulePattern] using base.plain.dot type.plain
    | some subtype => simpa [rulePattern] using base.plain.dot (type.plain.dot subtype.plain)

namespace Registry

variable (registry : Registry)

lemma maxSeverity_add {pattern : String} (plain : IsPlain pattern) (severity : Severity)
    (limitRules : List LimitRule) (event : EventType) :
    registry.maxSeverity (addSeverityLimitRule limitRules (pattern ++ "=" ++ severity.name)) event =
      if registry.hits pattern event then severity
      else registry.maxSeverity limitRules event := by
  unfold addSeverityLimitRule
  rw [readRule_of_plain plain]
  simp only [maxSeverity, find?_cons]
  cases registry.hits pattern event <;> rfl

end Registry

end Sct.Events

namespace Sct.Setup

open Sct.Events

variable {κ : Type} {registry : Registry}

/-! ## What a call owes -/

/-- The limit of every event type is the same. -/
def Same (registry : Registry) (before now : EventType → Severity) : Prop :=
  ∀ event ∈ registry.types, now event = before event

/-- Some critical event's pattern matches the event type. -/
def Covers (registry : Registry) (critical : List CriticalEvent) (event : EventType) : Prop :=
  ∃ entry ∈ critical, registry.hits entry.rulePattern event = true

/-- The recorded limits are those of all the event types their patterns match. -/
structure Faithful (registry : Registry) (before : EventType → Severity)
    (critical : List CriticalEvent) : Prop where
  plain : ∀ entry ∈ critical, IsPlain entry.rulePattern
  recorded : ∀ entry ∈ critical, ∀ event ∈ registry.types,
    registry.hits entry.rulePattern event = true → entry.defaultSeverity = before event

/-- Each of these events has, as its limit, the limit of all the event types its pattern matches. -/
def Agrees (registry : Registry) (limit : EventType → Severity) (critical : List EventType) :
    Prop :=
  ∀ event ∈ critical, event ∈ registry.types ∧ ∀ other ∈ registry.types,
    registry.hits event.rulePattern other = true → limit event = limit other

/-- How the limits stand to those a call found when it entered its block. -/
def Owes (registry : Registry) (before now : EventType → Severity) : Phase → Prop
  | .recording critical left =>
    Same registry before now ∧ Faithful registry before critical ∧ Agrees registry before left
  | .lifting critical left =>
    Faithful registry before critical ∧
      (∀ event ∈ registry.types, now event = before event ∨ Covers registry critical event) ∧
      ∃ entries, entries ⊆ critical ∧ left = entries.map CriticalEvent.criticalRule
  | .inside critical =>
    Faithful registry before critical ∧
      ∀ event ∈ registry.types, now event = before event ∨ Covers registry critical event
  | .restoring left =>
    ∃ entries, left = entries.map CriticalEvent.defaultRule ∧ Faithful registry before entries ∧
      ∀ event ∈ registry.types, now event = before event ∨ Covers registry entries event

/-- Calls in their block, one within the other: the limits a call found are those the calls around
it left, and those the first call found are the initial ones. -/
inductive Nested (registry : Registry) (initial : EventType → Severity) :
    (EventType → Severity) → List (κ × Phase) → Prop
  | idle {now : EventType → Severity} (same : Same registry initial now) :
    Nested registry initial now []
  | within {before now : EventType → Severity} {call : κ} {phase : Phase}
    {rest : List (κ × Phase)} (outer : Nested registry initial before rest)
    (owes : Owes registry before now phase) :
    Nested registry initial now ((call, phase) :: rest)

variable {before now : EventType → Severity} {later : EventType → Severity} {phase : Phase}

lemma Owes.congr (owes : Owes registry before now phase) (same : Same registry now later) :
    Owes registry before later phase := by
  cases phase with
  | recording critical left =>
    obtain ⟨unchanged, faithful, agrees⟩ := owes
    refine ⟨?_, faithful, agrees⟩
    intro event listed
    rw [same event listed, unchanged event listed]
  | lifting critical left =>
    obtain ⟨faithful, others, rules⟩ := owes
    refine ⟨faithful, ?_, rules⟩
    intro event listed
    rw [same event listed]
    exact others event listed
  | inside critical =>
    obtain ⟨faithful, others⟩ := owes
    refine ⟨faithful, ?_⟩
    intro event listed
    rw [same event listed]
    exact others event listed
  | restoring left =>
    obtain ⟨entries, rules, faithful, others⟩ := owes
    refine ⟨entries, rules, faithful, ?_⟩
    intro event listed
    rw [same event listed]
    exact others event listed

variable {initial : EventType → Severity} {calls : List (κ × Phase)}

lemma Nested.congr (nested : Nested registry initial now calls) (same : Same registry now later) :
    Nested registry initial later calls := by
  cases nested with
  | idle unchanged =>
    apply Nested.idle
    intro event listed
    rw [same event listed, unchanged event listed]
  | within outer owes => exact .within outer (owes.congr same)

/-! ## One step -/

variable [DecidableEq κ]

/-- When a step keeps the calls nested: a call enters with events that agree with what their
patterns match, the calls go on in the order in which they are nested, and none of them raises
with limits lifted. -/
def Orderly (registry : Registry) (setups : Setups κ) : Step κ → Prop
  | .enter _ critical => Agrees registry (registry.maxSeverity setups.limitRules) critical
  | .advance call => setups.calls.head?.map Prod.fst = some call
  | .fail call => ∀ critical, Dict.lookup call setups.calls ≠ some (.inside critical)

variable {limitRules : List LimitRule} {critical : List CriticalEvent} {left : List EventType}

lemma owes_record {event : EventType}
    (owes : Owes registry before (registry.maxSeverity limitRules) (.recording critical (event ::
      left))) :
    Owes registry before (registry.maxSeverity limitRules)
      (.recording (critical ++ [⟨event.rulePattern, registry.maxSeverity limitRules event⟩])
        left) := by
  obtain ⟨same, faithful, agrees⟩ := owes
  have own := agrees event mem_cons_self
  refine ⟨same, ⟨?_, ?_⟩, fun other listed => agrees other (mem_cons_of_mem _ listed)⟩
  · intro entry listed
    rcases mem_append.mp listed with early | late
    · exact faithful.plain entry early
    · rw [mem_singleton.mp late]
      exact event.rulePattern_plain
  · intro entry listed other registered hit
    rcases mem_append.mp listed with early | late
    · exact faithful.recorded entry early other registered hit
    · rw [mem_singleton.mp late] at hit ⊢
      rw [same event own.1]
      exact own.2 other registered hit

variable {rule : String}

lemma owes_lift {left : List String}
    (owes : Owes registry before (registry.maxSeverity limitRules) (.lifting critical (rule ::
      left))) :
    Owes registry before (registry.maxSeverity (addSeverityLimitRule limitRules rule))
      (.lifting critical left) := by
  obtain ⟨faithful, others, entries, members, rules⟩ := owes
  obtain _ | ⟨entry, entries⟩ := entries
  · cases rules
  · obtain ⟨rfl, rfl⟩ := List.cons.inj rules
    have listed := members mem_cons_self
    refine ⟨faithful, ?_, entries, fun other later => members (mem_cons_of_mem _ later), rfl⟩
    intro event registered
    rw [CriticalEvent.criticalRule, registry.maxSeverity_add (faithful.plain entry listed)]
    by_cases hit : registry.hits entry.rulePattern event = true
    · exact .inr ⟨entry, listed, hit⟩
    · rw [if_neg hit]
      exact others event registered

lemma owes_restore {left : List String}
    (owes : Owes registry before (registry.maxSeverity limitRules) (.restoring (rule :: left))) :
    Owes registry before (registry.maxSeverity (addSeverityLimitRule limitRules rule))
      (.restoring left) := by
  obtain ⟨entries, rules, faithful, others⟩ := owes
  obtain _ | ⟨entry, entries⟩ := entries
  · cases rules
  · obtain ⟨rfl, rfl⟩ := List.cons.inj rules
    have first : entry ∈ entry :: entries := mem_cons_self
    refine ⟨entries, rfl, ⟨?_, ?_⟩, ?_⟩
    · exact fun other later => faithful.plain other (mem_cons_of_mem _ later)
    · exact fun other later => faithful.recorded other (mem_cons_of_mem _ later)
    · intro event registered
      rw [CriticalEvent.defaultRule, registry.maxSeverity_add (faithful.plain entry first)]
      by_cases hit : registry.hits entry.rulePattern event = true
      · rw [if_pos hit]
        exact .inl (faithful.recorded entry first event registered hit)
      · rw [if_neg hit]
        rcases others event registered with same | ⟨other, listed, covered⟩
        · exact .inl same
        · rcases mem_cons.mp listed with rfl | later
          · exact absurd covered hit
          · exact .inr ⟨other, later, covered⟩

lemma owes_advance {after : List LimitRule} {next : Option Phase}
    (owes : Owes registry before (registry.maxSeverity limitRules) phase)
    (went : advancePhase registry limitRules phase = (after, next)) :
    match next with
    | some later => Owes registry before (registry.maxSeverity after) later
    | none => Same registry before (registry.maxSeverity after) := by
  cases phase with
  | recording critical left =>
    cases left with
    | nil =>
      cases went
      obtain ⟨same, faithful, _⟩ := owes
      exact ⟨faithful, fun event listed => .inl (same event listed), critical,
        List.Subset.refl _, rfl⟩
    | cons event left =>
      cases went
      exact owes_record owes
  | lifting critical left =>
    cases left with
    | nil =>
      cases went
      exact ⟨owes.1, owes.2.1⟩
    | cons rule left =>
      cases went
      exact owes_lift owes
  | inside critical =>
    cases went
    exact ⟨critical, rfl, owes.1, owes.2⟩
  | restoring left =>
    cases left with
    | nil =>
      cases went
      obtain ⟨entries, rules, _, others⟩ := owes
      have settled : entries = [] := map_eq_nil_iff.mp rules.symm
      subst settled
      intro event listed
      rcases others event listed with same | ⟨entry, member, _⟩
      · exact same
      · cases member
    | cons rule left =>
      cases went
      exact owes_restore owes

lemma Nested.leave {call : κ} (nested : Nested registry initial now calls)
    (found : Dict.lookup call calls = some (.recording critical left)) :
    Nested registry initial now (leave call calls) := by
  induction nested with
  | idle same => cases found
  | @within before now other phase rest outer owes ih =>
    rw [Dict.lookup] at found
    unfold Setup.leave
    by_cases own : other = call
    · subst own
      rw [eraseP_cons_of_pos (by simp)]
      rw [if_pos rfl] at found
      cases found
      exact outer.congr owes.1
    · rw [eraseP_cons_of_neg (by simpa using own)]
      rw [if_neg (fun equal => own equal)] at found
      exact .within (ih found) owes

variable {setups : Setups κ}

lemma nested_step {move : Step κ} (orderly : Orderly registry setups move)
    (nested : Nested registry initial (registry.maxSeverity setups.limitRules) setups.calls) :
    Nested registry initial (registry.maxSeverity (step registry setups move).limitRules)
      (step registry setups move).calls := by
  cases move with
  | enter call critical =>
    cases found : Dict.lookup call setups.calls with
    | some phase => simpa only [step, found] using nested
    | none =>
      simp only [step, found]
      have nothing : Faithful registry (registry.maxSeverity setups.limitRules) [] :=
        ⟨fun _ listed => (by cases listed), fun _ listed => (by cases listed)⟩
      exact .within nested ⟨fun _ _ => rfl, nothing, orderly⟩
  | advance call =>
    obtain ⟨limitRules, calls⟩ := setups
    -- The call that goes on is the innermost one, so only its own frame changes.
    cases nested with
    | idle same => cases orderly
    | @within before now latest phase rest outer owes =>
      obtain rfl : latest = call := Option.some.inj orderly
      have found : Dict.lookup latest ((latest, phase) :: rest) = some phase := if_pos rfl
      cases went : advancePhase registry limitRules phase with
      | mk after next =>
        have kept := owes_advance owes went
        cases next with
        | some later =>
          have replaced : Dict.assign latest later ((latest, phase) :: rest)
              = (latest, later) :: rest := if_pos rfl
          simp only [step, found, went, replaced]
          exact .within outer kept
        | none =>
          have left : leave latest ((latest, phase) :: rest) = rest :=
            eraseP_cons_of_pos (by simp)
          simp only [step, found, went, left]
          exact outer.congr kept
  | fail call =>
    cases found : Dict.lookup call setups.calls with
    | none => simpa only [step, found] using nested
    | some phase =>
      cases phase with
      | recording critical left =>
        simp only [step, found]
        exact nested.leave found
      | lifting critical left =>
        simp only [step, found]
        exact nested
      | inside critical => exact absurd found (orderly critical)
      | restoring left =>
        simp only [step, found]
        exact nested

/-! ## Runs -/

def OrderlyRun (registry : Registry) (setups : Setups κ) : List (Step κ) → Prop
  | [] => True
  | move :: rest =>
    Orderly registry setups move ∧ OrderlyRun registry (step registry setups move) rest

lemma nested_run {steps : List (Step κ)} (orderly : OrderlyRun registry setups steps)
    (nested : Nested registry initial (registry.maxSeverity setups.limitRules) setups.calls) :
    Nested registry initial (registry.maxSeverity (run registry setups steps).limitRules)
      (run registry setups steps).calls := by
  induction steps generalizing setups with
  | nil => exact nested
  | cons move rest ih => exact ih orderly.2 (nested_step orderly.1 nested)

/-- After an orderly run that left no call in its block, every event type has the limit it had
before the first call. -/
theorem maxSeverity_restored (registry : Registry) (limitRules : List LimitRule)
    (steps : List (Step κ)) (orderly : OrderlyRun registry ⟨limitRules, []⟩ steps)
    (idle : (run registry ⟨limitRules, []⟩ steps).calls = []) :
    ∀ event ∈ registry.types,
      registry.maxSeverity (run registry ⟨limitRules, []⟩ steps).limitRules event =
        registry.maxSeverity limitRules event := by
  have start : Nested registry (registry.maxSeverity limitRules)
      (registry.maxSeverity limitRules) ([] : List (κ × Phase)) := .idle fun _ _ => rfl
  have kept := nested_run orderly start
  rw [idle] at kept
  cases kept with
  | idle same => exact same

def databaseRegistry : Registry where
  types := defaultCriticalEvents
  maxSeverities := fun className => (Dict.lookup className databaseSeverities).getD .unknown
  fnmatch := fun name pattern => name == pattern
  exact_of_plain := fun _ _ => beq_iff_eq

def runtimeError : EventType := databaseLogEvent ⟨"RUNTIME_ERROR", by decide⟩

def upToYield (call : Nat) (critical : List EventType) : List (Step Nat) :=
  .enter call critical :: List.replicate (2 * critical.length + 2) (.advance call)

def fromYield (call : Nat) (critical : List EventType) : List (Step Nat) :=
  List.replicate (critical.length + 2) (.advance call)

def outcome (steps : List (Step Nat)) : Nat × Severity :=
  let after := run databaseRegistry ⟨[], []⟩ steps
  (after.calls.length, databaseRegistry.maxSeverity after.limitRules runtimeError)

def nestedCalls : List (Step Nat) :=
  upToYield 0 [runtimeError] ++ (upToYield 1 [runtimeError] ++
    (fromYield 1 [runtimeError] ++ fromYield 0 [runtimeError]))

/-- Nested calls are orderly, and put back what they found. -/
theorem maxSeverity_restored_nested : outcome nestedCalls = (0, .error) := by
  have registered : runtimeError ∈ databaseRegistry.types := by decide
  have first : Agrees databaseRegistry (databaseRegistry.maxSeverity []) [runtimeError] := by
    unfold Agrees
    decide
  have second : Agrees databaseRegistry
      (databaseRegistry.maxSeverity [⟨"DatabaseLogEvent.RUNTIME_ERROR", .critical⟩])
      [runtimeError] := by
    unfold Agrees
    decide
  have orderly : OrderlyRun databaseRegistry ⟨[], []⟩ nestedCalls :=
    ⟨first, rfl, rfl, rfl, rfl, second, rfl, rfl, rfl, rfl, rfl, rfl, rfl, rfl, rfl, rfl, trivial⟩
  have idle : (run databaseRegistry ⟨[], []⟩ nestedCalls).calls = [] := by rfl
  have restored := maxSeverity_restored databaseRegistry [] nestedCalls orderly idle
    runtimeError registered
  simp only [outcome, idle, restored]
  decide

/-- A call whose setup fails leaves its limits lifted, and two calls that overlap without being
nested leave the limits the second one found lifted. -/
theorem maxSeverity_left_lifted :
    outcome [] = (0, .error) ∧
      outcome (upToYield 0 [runtimeError] ++ [.fail 0]) = (0, .critical) ∧
      outcome (upToYield 0 [runtimeError] ++ (upToYield 1 [runtimeError] ++
        (fromYield 0 [runtimeError] ++ fromYield 1 [runtimeError]))) = (0, .critical) := by
  decide

end Sct.Setup
