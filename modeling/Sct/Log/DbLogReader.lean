import Mathlib.Data.List.Basic

/-!
# Reading the database log

The reading part of `_read_and_publish_events` in `sdcm/db_log_reader.py`, and the loop of `run`
around it. The log is the text its bytes decode to and grows by appends; a poll goes over the lines
from where the last one stopped. What is done with a classified line does not feed back into the
reading.
-/

namespace Sct.Log

/-- A line of a text, with the line feed that ends it if there is one. -/
abbrev Line := List Char

/-- The lines of a file opened with universal newlines: a carriage return, a line feed or both end
a line, as a line feed. -/
def lines : List Char → List Line
  | [] => []
  | char :: rest =>
    if char = '\r' ∧ rest.head? = some '\n' then lines rest
    else if char = '\n' ∨ char = '\r' then ['\n'] :: lines rest
    else
      match lines rest with
      | [] => [[char]]
      | first :: others => (char :: first) :: others

def logLineMaxProcessingSize : Nat := 1024 * 5

/-- The reader: what it carries from poll to poll, and the lines classified so far. -/
structure DbLogReader where
  lastLineNo : Int
  lastLogPosition : Nat
  skippedEndLine : Nat
  /-- The classified lines with the numbers they were given, oldest first. -/
  classified : List (Int × Line)
  deriving DecidableEq, Repr

def DbLogReader.initial : DbLogReader := ⟨-1, 0, 0, []⟩

/-- The loop over the lines of a poll, from the number of the first and the count of postponed
lines: the lines classified, and the count after the loop. -/
def classifyLines (index : Int) (skippedEndLine : Nat) : List Line → List (Int × Line) × Nat
  | [] => ([], skippedEndLine)
  | line :: rest =>
    let trimmed := line.take logLineMaxProcessingSize
    if trimmed.getLast? = some '\n' ∨ skippedEndLine > 20 then
      let (classified, skipped) := classifyLines (index + 1) 0 rest
      ((index, trimmed) :: classified, skipped)
    else classifyLines (index + 1) (skippedEndLine + 1) rest

def DbLogReader.readAndPublishEvents (reader : DbLogReader) (log : List Char) : DbLogReader :=
  let unread := lines (log.drop reader.lastLogPosition)
  let start := reader.lastLineNo + 1
  let (classified, skipped) := classifyLines start reader.skippedEndLine unread
  -- the number of the last line read, or 0 when none was
  let index := if unread = [] then 0 else start + unread.length - 1
  { lastLineNo := if index ≠ 0 then index else reader.lastLineNo
    lastLogPosition := if index ≠ 0 then log.length else reader.lastLogPosition
    skippedEndLine := skipped
    classified := reader.classified ++ classified }

/-! ## Schedules -/

/-- What happens to a log and its reader. -/
inductive Event where
  | append (text : List Char)
  | poll
  deriving DecidableEq, Repr

/-- The log, what of it the last poll saw, and the reader. -/
structure Session where
  log : List Char
  seen : List Char
  reader : DbLogReader
  deriving DecidableEq, Repr

namespace Session

def initial : Session := ⟨[], [], DbLogReader.initial⟩

def step (session : Session) : Event → Session
  | .append text => { session with log := session.log ++ text }
  | .poll => ⟨session.log, session.log, session.reader.readAndPublishEvents session.log⟩

def run (session : Session) (schedule : List Event) : Session := schedule.foldl step session

end Session

/-! ## Routing -/

/-- An event with the backtrace attached to it. -/
structure LogEvent where
  type : String
  rawBacktrace : String
  deriving DecidableEq, Repr

/-- What `__init__` is given about decoding. -/
structure DecodingConfig where
  decodingQueue : Bool
  backtraceStallDecoding : Bool
  backtraceDecodingDisableRegex : Option String

/-- What the reader keeps of it. -/
structure Decoder where
  decodingQueue : Bool
  backtraceStallDecoding : Bool
  disableRegexCompiled : Option (String → Bool)
  backtraceDecodingDisableRegex : Option (String → Bool)

/-- `compile` gives the texts that a pattern matches. -/
def Decoder.init (compile : String → String → Bool) (config : DecodingConfig) : Decoder where
  decodingQueue := config.decodingQueue
  backtraceStallDecoding := config.backtraceStallDecoding
  disableRegexCompiled := none
  backtraceDecodingDisableRegex :=
    (config.backtraceDecodingDisableRegex.filter (· != "")).map compile

def Decoder.shouldSkipDecoding (decoder : Decoder) (event : LogEvent) : Bool :=
  !decoder.backtraceStallDecoding && event.type == "REACTOR_STALLED" ||
    decoder.disableRegexCompiled.any (· event.type)

inductive Routed where
  | queued (event : LogEvent)
  | published (event : LogEvent)
  deriving DecidableEq, Repr

/-- The last loop of a poll, from the position of its first event. A refused `put` publishes the
event and ends the poll. -/
def routeEvents (decoder : Decoder) (refused : Nat → Bool) (position : Nat) :
    List LogEvent → List Routed
  | [] => []
  | event :: rest =>
    if !(decoder.decodingQueue && event.rawBacktrace != "") || decoder.shouldSkipDecoding event then
      .published event :: routeEvents decoder refused (position + 1) rest
    else if refused position then [.published event]
    else .queued event :: routeEvents decoder refused (position + 1) rest

end Sct.Log
