import Sct.Log.DbLogReader

/-!
# Which lines of the log are classified

The reader carries a line number and a position from poll to poll. They stay in step with the log
as long as no poll sees an unfinished line and none sees a log of a single line: the position
moves past an unfinished line although its processing is postponed, and neither is saved when the
last number read is zero. Under that condition every finished line is classified once, whole and
under its own number. Two schedules show what happens without it.
-/

open List

namespace Sct.Log

/-! ## Lines -/

def Finished (text : List Char) : Prop := text = [] ∨ text.getLast? = some '\n'

lemma lines_eq_nil_iff (text : List Char) : lines text = [] ↔ text = [] := by
  induction text with
  | nil => simp [lines]
  | cons char rest ih =>
    rw [lines]
    split
    · rename_i both
      have nonempty : rest ≠ [] := by
        rintro rfl
        simp at both
      simp [ih, nonempty]
    · split
      · simp
      · split <;> simp

lemma Finished.tail {char : Char} {rest : List Char} (finished : Finished (char :: rest))
    (inside : char ≠ '\n') : rest ≠ [] ∧ Finished rest := by
  have nonempty : rest ≠ [] := by
    rintro rfl
    rcases finished with empty | ends
    · cases empty
    · exact inside (Option.some.inj ends)
  refine ⟨nonempty, ?_⟩
  rcases finished with empty | ends
  · cases empty
  · rw [getLast?_cons_of_ne_nil nonempty] at ends
    exact .inr ends

lemma Finished.rest {rest : List Char} (finished : Finished ('\n' :: rest)) :
    Finished rest := by
  by_cases empty : rest = []
  · exact .inl empty
  · rcases finished with impossible | ends
    · cases impossible
    · rw [getLast?_cons_of_ne_nil empty] at ends
      exact .inr ends

lemma lines_append {text : List Char} (finished : Finished text) (more : List Char) :
    lines (text ++ more) = lines text ++ lines more := by
  induction text with
  | nil => rfl
  | cons char rest ih =>
    by_cases feed : char = '\n'
    · subst feed
      simp [lines, ih finished.rest]
    · obtain ⟨nonempty, finished⟩ := finished.tail feed
      -- what follows a carriage return is in the text itself
      have next : (rest ++ more).head? = rest.head? := head?_append_of_ne_nil rest nonempty
      rw [cons_append, lines, lines, next, ih finished]
      split
      · rfl
      · split
        · rfl
        · cases read : lines rest with
          | nil => exact absurd ((lines_eq_nil_iff rest).mp read) nonempty
          | cons first others => rfl

/-! ## One poll -/

variable (index : Int)

lemma classifyLines_bounds (skipped : Nat) (unread : List Line) :
    ∀ entry ∈ (classifyLines index skipped unread).1,
      index ≤ entry.1 ∧ entry.1 < index + unread.length := by
  induction unread generalizing index skipped with
  | nil => simp [classifyLines]
  | cons line rest ih =>
    intro entry listed
    rw [classifyLines] at listed
    rw [length_cons]
    split at listed
    · rcases mem_cons.mp listed with rfl | later
      · omega
      · have bounds := ih (index + 1) 0 entry later
        omega
    · have bounds := ih (index + 1) (skipped + 1) entry listed
      omega

def numbered (number : Int) (entries : List (Int × Line)) : List (Int × Line) :=
  entries.filter fun entry => decide (entry.1 = number)

lemma numbered_eq_nil {number : Int} {entries : List (Int × Line)}
    (other : ∀ entry ∈ entries, entry.1 ≠ number) : numbered number entries = [] := by
  apply filter_eq_nil_iff.mpr
  intro entry listed
  simpa using other entry listed

variable (number : Int)

@[simp] lemma numbered_cons_self (line : Line) (entries : List (Int × Line)) :
    numbered number ((number, line) :: entries) = (number, line) :: numbered number entries := by
  simp [numbered]

@[simp] lemma numbered_append (earlier later : List (Int × Line)) :
    numbered number (earlier ++ later) = numbered number earlier ++ numbered number later :=
  filter_append ..

lemma numbered_classifyLines (skipped : Nat) {unread : List Line} {offset : Nat} {line : Line}
    (present : unread[offset]? = some line) (ends : line.getLast? = some '\n')
    (short : line.length ≤ logLineMaxProcessingSize) :
    numbered (index + offset) (classifyLines index skipped unread).1 =
      [(index + offset, line)] := by
  induction unread generalizing index skipped offset with
  | nil => simp at present
  | cons first rest ih =>
    cases offset with
    | zero =>
      obtain rfl : first = line := by simpa using present
      have whole : first.take logLineMaxProcessingSize = first := take_of_length_le short
      have later : numbered index (classifyLines (index + 1) 0 rest).1 = [] := by
        apply numbered_eq_nil
        intro entry listed
        have bounds := classifyLines_bounds (index + 1) 0 rest entry listed
        omega
      have same : index + ((0 : Nat) : Int) = index := by omega
      rw [same, classifyLines]
      simp only [whole, ends, true_or, if_true, numbered_cons_self, later]
    | succ offset =>
      have found : rest[offset]? = some line := by simpa using present
      have shifted : index + ((offset + 1 : Nat) : Int) = index + 1 + (offset : Int) := by
        omega
      have differ : index ≠ index + 1 + (offset : Int) := by omega
      rw [shifted, classifyLines]
      split
      · simpa [numbered, differ] using ih (index + 1) 0 found
      · exact ih (index + 1) (skipped + 1) found

lemma DbLogReader.readAndPublishEvents_eq {reader : DbLogReader} {seen new : List Char}
    (finished : Finished seen) (counted : reader.lastLineNo = (lines seen).length - 1)
    (reached : reader.lastLogPosition = seen.length) (several : (lines (seen ++ new)).length ≠ 1) :
    reader.readAndPublishEvents (seen ++ new) =
      { lastLineNo := (lines (seen ++ new)).length - 1
        lastLogPosition := (seen ++ new).length
        skippedEndLine := (classifyLines (lines seen).length reader.skippedEndLine (lines new)).2
        classified := reader.classified ++
          (classifyLines (lines seen).length reader.skippedEndLine (lines new)).1 } := by
  have start : reader.lastLineNo + 1 = (lines seen).length := by omega
  have unread : lines ((seen ++ new).drop reader.lastLogPosition) = lines new := by
    rw [reached, drop_left]
  have total : (lines (seen ++ new)).length = (lines seen).length + (lines new).length := by
    rw [lines_append finished, length_append]
  unfold DbLogReader.readAndPublishEvents
  simp only [unread, start]
  by_cases empty : new = []
  · subst empty
    simp [lines, counted, reached]
  · have some : lines new ≠ [] := fun none => empty ((lines_eq_nil_iff new).mp none)
    have moved : ((lines seen).length : Int) + (lines new).length - 1 ≠ 0 := by omega
    have last : ((lines seen).length : Int) + (lines new).length - 1 =
        (lines (seen ++ new)).length - 1 := by
      omega
    rw [if_neg some, if_pos moved, if_pos moved, last]

/-! ## Schedules -/

namespace Session

/-- Every finished line within the limit that the last poll saw has been classified once, whole
and under its own number. -/
def Classified (session : Session) : Prop :=
  ∀ (number : Nat) (line : Line), (lines session.seen)[number]? = some line →
    line.getLast? = some '\n' → line.length ≤ logLineMaxProcessingSize →
    numbered number session.reader.classified = [((number : Int), line)]

/-- The reader is in step with the log. -/
structure InStep (session : Session) : Prop where
  grown : session.seen <+: session.log
  finished : Finished session.seen
  counted : session.reader.lastLineNo = (lines session.seen).length - 1
  reached : session.reader.lastLogPosition = session.seen.length
  bounded : ∀ entry ∈ session.reader.classified, entry.1 < (lines session.seen).length
  classified : session.Classified

lemma inStep_initial : initial.InStep where
  grown := prefix_refl []
  finished := .inl rfl
  counted := rfl
  reached := rfl
  bounded := nofun
  classified := fun number line present => by simp [initial, lines] at present

/-- A log a poll may see: no line is unfinished, and there is not just one. -/
def Settled (log : List Char) : Prop := Finished log ∧ (lines log).length ≠ 1

variable {session : Session}

lemma InStep.poll (inStep : session.InStep) (settled : Settled session.log) :
    (session.step .poll).InStep := by
  obtain ⟨new, split⟩ := inStep.grown
  have read := session.reader.readAndPublishEvents_eq inStep.finished inStep.counted
    inStep.reached (split ▸ settled.2)
  have joined := lines_append inStep.finished new
  rw [split] at read joined
  have total := congrArg List.length joined
  rw [length_append] at total
  refine ⟨prefix_refl _, settled.1, ?_, ?_, ?_, ?_⟩
  · simp only [step, read]
  · simp only [step, read]
  · intro entry listed
    simp only [step, read, mem_append] at listed ⊢
    rcases listed with earlier | later
    · have bound := inStep.bounded entry earlier
      omega
    · have bounds := classifyLines_bounds _ _ _ entry later
      omega
  · intro number line present ends short
    simp only [step, read, numbered_append] at present ⊢
    rw [joined, getElem?_append] at present
    split at present
    · -- a line of an earlier poll: this poll gives out greater numbers only
      have none : numbered number (classifyLines (lines session.seen).length
          session.reader.skippedEndLine (lines new)).1 = [] := by
        apply numbered_eq_nil
        intro entry listed
        have bounds := classifyLines_bounds _ _ _ entry listed
        omega
      rw [none, append_nil]
      exact inStep.classified number line present ends short
    · have none : numbered number session.reader.classified = [] := by
        apply numbered_eq_nil
        intro entry listed
        have bound := inStep.bounded entry listed
        omega
      have once := numbered_classifyLines (lines session.seen).length
        session.reader.skippedEndLine present ends short
      have place : ((lines session.seen).length : Int) +
          ((number - (lines session.seen).length : Nat) : Int) = number := by
        omega
      rw [place] at once
      rw [none, nil_append, once]

def PollsSettled : List Char → List Event → Prop
  | _, [] => True
  | log, .append text :: rest => PollsSettled (log ++ text) rest
  | log, .poll :: rest => Settled log ∧ PollsSettled log rest

lemma InStep.run (inStep : session.InStep) {schedule : List Event}
    (settled : PollsSettled session.log schedule) : (session.run schedule).InStep := by
  induction schedule generalizing session with
  | nil => exact inStep
  | cons event rest ih =>
    cases event with
    | append text =>
      exact ih { inStep with grown := inStep.grown.trans (prefix_append ..) } settled
    | poll => exact ih (inStep.poll settled.1) settled.2

/-- Whatever is appended and polled, as long as no poll sees an unfinished line or a log of one
line, every finished line within the limit is classified once, whole and under its number. -/
theorem classified_of_pollsSettled (schedule : List Event) (settled : PollsSettled [] schedule) :
    (initial.run schedule).Classified :=
  (inStep_initial.run settled).classified

def wholeLines : List Event :=
  [.append "a\nb\n".toList, .poll, .poll, .append "c\n".toList, .poll]

theorem wholeLines_classified :
    PollsSettled [] wholeLines ∧ (initial.run wholeLines).Classified := by
  have settled : PollsSettled [] wholeLines :=
    ⟨⟨.inr rfl, by decide⟩, ⟨.inr rfl, by decide⟩, ⟨.inr rfl, by decide⟩, trivial⟩
  exact ⟨settled, classified_of_pollsSettled wholeLines settled⟩

def cutLine : List Event := [.append "a\nb".toList, .poll, .append "c\n".toList, .poll]

def singleLine : List Event := [.append "a\n".toList, .poll, .poll]

/-- The second half of a line cut by a poll is classified as a line of its own, under the next
number, and the whole line never; the only line of a log is classified at every poll. -/
theorem cutLine_singleLine_not_classified :
    ((initial.run cutLine).reader.classified = [(0, "a\n".toList), (2, "c\n".toList)] ∧
      ¬ (initial.run cutLine).Classified) ∧
    (initial.run singleLine).reader.classified = [(0, "a\n".toList), (0, "a\n".toList)] ∧
      ¬ (initial.run singleLine).Classified := by
  have cut : (initial.run cutLine).reader.classified =
      [(0, "a\n".toList), (2, "c\n".toList)] := by
    decide
  have twice : (initial.run singleLine).reader.classified =
      [(0, "a\n".toList), (0, "a\n".toList)] := by
    decide
  refine ⟨⟨cut, ?_⟩, twice, ?_⟩
  · intro classified
    have once := classified 1 "bc\n".toList (by decide) (by decide) (by decide)
    revert once
    decide
  · intro classified
    have once := classified 0 "a\n".toList (by decide) (by decide) (by decide)
    revert once
    decide

end Session

/-! ## Which events are queued

`_should_skip_decoding` reads another attribute than the one in which `__init__` stores the pattern,
so no event is kept from the queue by it. After a refused `put` the events that are left are neither
queued nor published.
-/

section

variable (compile : String → String → Bool) (config : DecodingConfig)

def DecodingConfig.disables (type : String) : Bool :=
  (config.backtraceDecodingDisableRegex.filter (· != "")).any fun regex => compile regex type

/-- There is a queue and a backtrace, and the event is not a stall kept from decoding. -/
def DecodingConfig.decodes (event : LogEvent) : Bool :=
  config.decodingQueue && event.rawBacktrace != "" &&
    (config.backtraceStallDecoding || event.type != "REACTOR_STALLED")

def DecodingConfig.destination (event : LogEvent) : Routed :=
  if config.decodes event && !config.disables compile event.type then .queued event
  else .published event

variable (refused : Nat → Bool) (position : Nat) (event : LogEvent) (rest : List LogEvent)

lemma routeEvents_cons : routeEvents (.init compile config) refused position (event :: rest) =
    if config.decodes event then
      if refused position then [.published event]
      else .queued event :: routeEvents (.init compile config) refused (position + 1) rest
    else .published event :: routeEvents (.init compile config) refused (position + 1) rest := by
  have skipped : (!(config.decodingQueue && event.rawBacktrace != "") ||
      (Decoder.init compile config).shouldSkipDecoding event) = !config.decodes event := by
    simp only [Decoder.shouldSkipDecoding, Decoder.init, DecodingConfig.decodes, bne]
    cases config.decodingQueue <;> cases event.rawBacktrace == "" <;>
      cases config.backtraceStallDecoding <;> cases event.type == "REACTOR_STALLED" <;> rfl
  show (if (!(config.decodingQueue && _) || _) = true then _ else _) = _
  rw [skipped]
  cases config.decodes event <;> rfl

/-- What must hold for an event: it is refused by the queue just if its type is disabled, and then
nothing comes after it. -/
def DecodingConfig.Fits (length index : Nat) : Prop :=
  config.decodes event = true → (config.disables compile event.type = refused index) ∧
    (refused index = true → index + 1 = length)

/-- All events go where they are to go just if all of them fit. -/
lemma routeEvents_eq_iff (events : List LogEvent) :
    routeEvents (.init compile config) refused position events =
        events.map (config.destination compile) ↔
      ∀ index event, events[index]? = some event →
        config.Fits compile refused event (position + events.length) (position + index) := by
  induction events generalizing position with
  | nil => simp [routeEvents]
  | cons event rest ih =>
    have split : (∀ index other, (event :: rest)[index]? = some other → config.Fits compile refused
          other (position + (event :: rest).length) (position + index)) ↔
        config.Fits compile refused event (position + (rest.length + 1)) position ∧
          ∀ index other, rest[index]? = some other → config.Fits compile refused other
            (position + 1 + rest.length) (position + 1 + index) := by
      constructor
      · intro fits
        refine ⟨fits 0 event rfl, fun index other found => ?_⟩
        have later := fits (index + 1) other found
        rwa [length_cons, ← Nat.add_assoc, Nat.add_right_comm, Nat.add_comm index,
          ← Nat.add_assoc] at later
      · rintro ⟨first, later⟩ (_ | index) other found
        · cases found
          exact first
        · have fits := later index other found
          rwa [Nat.add_right_comm, Nat.add_assoc _ 1 index, Nat.add_comm 1 index] at fits
    rw [split, ← ih, routeEvents_cons, map_cons, DecodingConfig.destination, DecodingConfig.Fits]
    cases config.decodes event with
    | false => simp
    | true =>
      cases refusal : refused position with
      | true => cases config.disables compile event.type <;> cases rest <;> simp [routeEvents]
      | false => cases config.disables compile event.type <;> simp

theorem routed_iff (events : List LogEvent) :
    routeEvents (.init compile config) refused 0 events = events.map (config.destination compile) ↔
      ∀ index event, events[index]? = some event →
        config.Fits compile refused event events.length index := by
  rw [routeEvents_eq_iff]
  simp only [Nat.zero_add]

end

/-- An event of a disabled type is queued, and the event after a refused one goes nowhere. -/
theorem disabled_queued_and_event_lost :
    let config : DecodingConfig := ⟨true, true, some "OVERSIZED_ALLOCATION"⟩
    let disabled : LogEvent := ⟨"OVERSIZED_ALLOCATION", "0x1"⟩
    let other : LogEvent := ⟨"DATABASE_ERROR", "0x2"⟩
    config.destination (· == ·) disabled = .published disabled ∧
      routeEvents (.init (· == ·) config) (fun _ => false) 0 [disabled] = [.queued disabled] ∧
      routeEvents (.init (· == ·) config) (fun _ => true) 0 [other, other] =
        [.published other] := by
  decide

end Sct.Log
