import Mathlib.Data.Rat.Defs
import Sct.Lib.Words

/-!
# Time consistency of logs

`DbLogTimeConsistencyAnalyzer` of `sdcm/utils/log_time_consistency.py`. The time a line starts with
is read by a given function; it gives nothing where the reading raises.
-/

namespace Sct.LogTime

/-- The keys of `times` and `>3hours`. -/
inductive Bucket where
  | underMinute
  | underFiveMinutes
  | underHalfHour
  | underThreeHours
  | overThreeHours
  deriving DecidableEq

def times : List (Bucket × Rat) :=
  [(.underMinute, 60), (.underFiveMinutes, 60 * 5), (.underHalfHour, 60 * 30),
    (.underThreeHours, 60 * 60 * 3)]

def lowerShiftLimit : Rat := 1

def recordsLimit : Nat := 10

def ignoreLines : List String :=
  ["syslog-ng starting up", "Syslog connection established", "Destination reliable queue full",
    "rsyslogd:", "systemd[", "rsyslogd["]

def isIgnored (line : String) : Bool := ignoreLines.any (contains line)

/-- The loop of `_get_timeshift_bucket_name`. -/
def bucketFrom (timeShift lowMark : Rat) : List (Bucket × Rat) → Bucket
  | [] => .overThreeHours
  | (name, highMark) :: rest =>
    if lowMark ≤ timeShift ∧ timeShift < highMark then name else bucketFrom timeShift highMark rest

def getTimeshiftBucketName (timeShift : Rat) : Option Bucket :=
  if timeShift ≤ lowerShiftLimit then none else some (bucketFrom timeShift 0 times)

/-- The local variables of `_analyze_file`. -/
structure Analysis where
  priorTime : Rat
  priorLine : String
  output : Bucket → List String
  counters : Bucket → Nat
  total : Nat

/-- A shift is counted and, while the bucket has room, listed. -/
def Analysis.count (analysis : Analysis) (line : String) (name : Bucket) : Analysis :=
  let counters := fun other =>
    if other = name then analysis.counters name + 1 else analysis.counters other
  { analysis with
    total := analysis.total + 1
    counters := counters
    output := fun other =>
      if other = name ∧ counters name < recordsLimit then
        analysis.output name ++ [analysis.priorLine ++ line]
      else analysis.output other }

/-- The body of the loop of `_analyze_file`. -/
def analyzeLine (timestamp : String → Option Rat) (analysis : Analysis) (line : String) :
    Analysis :=
  if isIgnored line then analysis
  else
    match timestamp line with
    | none => analysis
    | some currentTime =>
      let counted :=
        match getTimeshiftBucketName (analysis.priorTime - currentTime) with
        | none => analysis
        | some name => analysis.count line name
      { counted with priorTime := currentTime, priorLine := line }

def moreMessages (value : Nat) : String :=
  "There are more messages, total number is " ++ toString value

def appendCountersToDetails (analysis : Analysis) : Analysis :=
  { analysis with
    output := fun name =>
      if analysis.counters name > recordsLimit then
        analysis.output name ++ [moreMessages (analysis.counters name)]
      else analysis.output name }

def analyzeFile (timestamp : String → Option Rat) (now : Rat) (lines : List String) : Analysis :=
  appendCountersToDetails (lines.foldl (analyzeLine timestamp)
    ⟨now - 60 * 60 * 24 * 365, "", fun _ => [], fun _ => 0, 0⟩)

end Sct.LogTime
