import Mathlib.Tactic.Linarith
import Mathlib.Algebra.Order.Ring.Rat
import Sct.Lib.Search
import Sct.Utils.LogTimeConsistency

/-!
# The listings of time shifts

Every shift above the limit is counted in one bucket. A listing has the first nine records of its
bucket and, from eleven records on, a note, so that a bucket of ten records loses one without saying
so.
-/

namespace Sct.LogTime

open List

/-- The shifts a bucket is for. -/
def Bucket.holds : Bucket → Rat → Bool
  | .underMinute, shift => shift < 60
  | .underFiveMinutes, shift => 60 ≤ shift ∧ shift < 300
  | .underHalfHour, shift => 300 ≤ shift ∧ shift < 1800
  | .underThreeHours, shift => 1800 ≤ shift ∧ shift < 10800
  | .overThreeHours, shift => 10800 ≤ shift

def buckets : List Bucket :=
  [.underMinute, .underFiveMinutes, .underHalfHour, .underThreeHours, .overThreeHours]

/-- Not the beginning of a note. -/
def StartsOtherwise (text : String) : Prop :=
  ∃ first rest, text.toList = first :: rest ∧ first ≠ 'T'

/-- A reader of times: a line it reads starts with a digit or a blank. -/
structure Reader where
  timestamp : String → Option Rat
  starts : ∀ line, (timestamp line).isSome = true → StartsOtherwise line

/-- A backward shift, and the two lines that show it. -/
structure Shift where
  seconds : Rat
  record : String

namespace Reader

variable (reader : Reader)

/-- The lines that have a time, with their times. -/
def stamped (lines : List String) : List (Rat × String) :=
  lines.filterMap fun line =>
    if isIgnored line then none else (reader.timestamp line).map fun time => (time, line)

end Reader

/-- The backward shifts above the limit from one line to the next, after the line `prior`. -/
def shifts : (prior : Rat × String) → List (Rat × String) → List Shift
  | _, [] => []
  | prior, next :: rest =>
    if lowerShiftLimit < prior.1 - next.1 then
      ⟨prior.1 - next.1, prior.2 ++ next.2⟩ :: shifts next rest
    else shifts next rest

/-- All shifts of a file; the first line is compared with the time of a year ago. -/
def Reader.shiftsOf (reader : Reader) (now : Rat) (lines : List String) : List Shift :=
  shifts (now - 60 * 60 * 24 * 365, "") (reader.stamped lines)

def recordsIn (found : List Shift) (bucket : Bucket) : List String :=
  (found.filter fun shift => bucket.holds shift.seconds).map Shift.record

/-- What the analysis is to say of the shifts of a file. -/
structure Accounts (analysis : Analysis) (found : List Shift) : Prop where
  once : ∀ shift ∈ found, ∃! bucket : Bucket, bucket.holds shift.seconds = true
  counted : ∀ bucket, analysis.counters bucket = (recordsIn found bucket).length
  total : analysis.total = (buckets.map analysis.counters).sum
  listed : ∀ bucket, analysis.output bucket = recordsIn found bucket ∨
    (analysis.output bucket).getLast? = some (moreMessages (recordsIn found bucket).length)

/-! ## Buckets -/

lemma holds_iff_eq_bucketFrom {shift : Rat} (positive : 0 ≤ shift) (bucket : Bucket) :
    bucket.holds shift = true ↔ bucket = bucketFrom shift 0 times := by
  simp only [bucketFrom, times]
  cases bucket <;> simp only [Bucket.holds, decide_eq_true_eq] <;> split_ifs <;> grind

lemma existsUnique_holds {shift : Rat} (above : lowerShiftLimit < shift) :
    ∃! bucket : Bucket, bucket.holds shift = true := by
  have positive : 0 ≤ shift := le_of_lt (lt_trans (by decide) above)
  refine ⟨bucketFrom shift 0 times, (holds_iff_eq_bucketFrom positive _).mpr rfl, ?_⟩
  exact fun other => (holds_iff_eq_bucketFrom positive other).mp

lemma lt_of_mem_shifts {prior : Rat × String} {lines : List (Rat × String)} {shift : Shift}
    (listed : shift ∈ shifts prior lines) : lowerShiftLimit < shift.seconds := by
  induction lines generalizing prior with
  | nil => cases listed
  | cons next rest ih =>
    rw [shifts] at listed
    split at listed
    · rename_i above
      rcases mem_cons.mp listed with rfl | later
      · exact above
      · exact ih later
    · exact ih listed

/-! ## The lines of a file -/

/-- What the local variables say of the shifts found so far: a listing has the first nine. -/
structure Counted (analysis : Analysis) (found : List Shift) : Prop where
  counters : ∀ bucket, analysis.counters bucket = (recordsIn found bucket).length
  total : analysis.total = found.length
  output : ∀ bucket, analysis.output bucket = (recordsIn found bucket).take 9

variable {analysis : Analysis} {found : List Shift}

lemma recordsIn_append (found : List Shift) {shift : Shift}
    (above : lowerShiftLimit < shift.seconds) (bucket : Bucket) :
    recordsIn (found ++ [shift]) bucket = recordsIn found bucket ++
      if bucket = bucketFrom shift.seconds 0 times then [shift.record] else [] := by
  have positive : 0 ≤ shift.seconds := le_of_lt (lt_trans (by decide) above)
  have held := holds_iff_eq_bucketFrom positive bucket
  unfold recordsIn
  rw [filter_append, map_append]
  by_cases same : bucket = bucketFrom shift.seconds 0 times
  · simp [held.mpr same, ← same]
  · simp [mt held.mp same, same]

lemma Counted.count (counted : Counted analysis found) {line : String} {seconds : Rat}
    (above : lowerShiftLimit < seconds) :
    Counted (analysis.count line (bucketFrom seconds 0 times))
      (found ++ [⟨seconds, analysis.priorLine ++ line⟩]) := by
  have records := @recordsIn_append found ⟨seconds, analysis.priorLine ++ line⟩ above
  refine ⟨fun bucket => ?_, ?_, fun bucket => ?_⟩
  · rw [records]
    unfold Analysis.count
    by_cases same : bucket = bucketFrom seconds 0 times
    · simp [same, counted.counters]
    · simp [same, counted.counters]
  · rw [length_append, ← counted.total]
    rfl
  · rw [records]
    unfold Analysis.count
    by_cases same : bucket = bucketFrom seconds 0 times
    · subst same
      simp only [true_and, if_true, counted.counters, counted.output, recordsLimit]
      split
      · rename_i room
        rw [take_of_length_le (by omega), take_of_length_le (by simp; omega)]
      · rename_i full
        rw [take_append_of_le_length (by omega)]
    · simp [same, counted.output]

/-- A line without a time changes nothing; any other is compared with the one before. -/
lemma analyzeLine_cases (reader : Reader) (analysis : Analysis) (line : String) :
    analyzeLine reader.timestamp analysis line = analysis ∧ reader.stamped [line] = [] ∨
      ∃ time, reader.timestamp line = some time ∧ reader.stamped [line] = [(time, line)] ∧
        analyzeLine reader.timestamp analysis line =
          { (if lowerShiftLimit < analysis.priorTime - time then
              analysis.count line (bucketFrom (analysis.priorTime - time) 0 times)
            else analysis) with priorTime := time, priorLine := line } := by
  unfold analyzeLine Reader.stamped
  by_cases ignored : isIgnored line = true
  · simp [ignored]
  · cases read : reader.timestamp line with
    | none => simp [ignored, read]
    | some time =>
      right
      refine ⟨time, rfl, by simp [ignored, read], ?_⟩
      rw [if_neg ignored]
      by_cases above : lowerShiftLimit < analysis.priorTime - time
      · simp only [if_pos above, getTimeshiftBucketName, if_neg (not_le.mpr above)]
      · simp only [if_neg above, getTimeshiftBucketName, if_pos (not_lt.mp above)]

lemma counted_foldl (reader : Reader) (counted : Counted analysis found) (lines : List String) :
    Counted (lines.foldl (analyzeLine reader.timestamp) analysis)
      (found ++ shifts (analysis.priorTime, analysis.priorLine) (reader.stamped lines)) := by
  induction lines generalizing analysis found with
  | nil => simpa [Reader.stamped, shifts] using counted
  | cons line rest ih =>
    have split : reader.stamped (line :: rest) = reader.stamped [line] ++ reader.stamped rest :=
      filterMap_append (l := [line])
    rw [foldl_cons, split]
    rcases analyzeLine_cases reader analysis line with ⟨same, none⟩ | ⟨time, -, one, next⟩
    · rw [same, none]
      exact ih counted
    · rw [next, one, singleton_append, shifts]
      have moved {counted : Analysis} {found : List Shift} (before : Counted counted found) :
          Counted { counted with priorTime := time, priorLine := line } found :=
        ⟨before.counters, before.total, before.output⟩
      by_cases above : lowerShiftLimit < analysis.priorTime - time
      · rw [if_pos above, if_pos above]
        have later := ih (moved (@Counted.count _ _ counted line _ above))
        rwa [append_assoc, singleton_append] at later
      · rw [if_neg above, if_neg above]
        exact ih (moved counted)

/-- What the lines of a file leave in the local variables. -/
lemma counted_run (reader : Reader) (now : Rat) (lines : List String) :
    Counted (lines.foldl (analyzeLine reader.timestamp)
      ⟨now - 60 * 60 * 24 * 365, "", fun _ => [], fun _ => 0, 0⟩) (reader.shiftsOf now lines) :=
  @counted_foldl ⟨now - 60 * 60 * 24 * 365, "", fun _ => [], fun _ => 0, 0⟩ [] reader
    ⟨fun _ => rfl, rfl, fun _ => rfl⟩ lines

lemma Counted.output_append (counted : Counted analysis found) (bucket : Bucket) :
    (appendCountersToDetails analysis).output bucket = (recordsIn found bucket).take 9 ++
      if (recordsIn found bucket).length > 10 then
        [moreMessages (recordsIn found bucket).length] else [] := by
  unfold appendCountersToDetails
  simp only [counted.counters, counted.output, recordsLimit]
  split
  · rfl
  · rw [append_nil]

lemma total_eq_sum (above : ∀ shift ∈ found, lowerShiftLimit < shift.seconds) :
    found.length = (buckets.map fun bucket => (recordsIn found bucket).length).sum := by
  induction found using reverseRecOn with
  | nil => rfl
  | append_singleton found shift ih =>
    obtain ⟨before, last⟩ := forall_mem_append.mp above
    have records := recordsIn_append found (last shift mem_cons_self)
    simp only [records, length_append, ih before, buckets, map_cons, map_nil, sum_cons, sum_nil]
    cases bucketFrom shift.seconds 0 times <;> simp <;> omega

/-! ## Records and notes -/

lemma startsOtherwise_record {prior : Rat × String} {lines : List (Rat × String)}
    (first : prior.2 = "" ∨ StartsOtherwise prior.2)
    (others : ∀ line ∈ lines, StartsOtherwise line.2) :
    ∀ shift ∈ shifts prior lines, StartsOtherwise shift.record := by
  induction lines generalizing prior with
  | nil => exact fun _ listed => absurd listed not_mem_nil
  | cons next rest ih =>
    obtain ⟨here, after⟩ := forall_mem_cons.mp others
    have later := ih (Or.inr here) after
    have record : StartsOtherwise (prior.2 ++ next.2) := by
      rcases first with empty | ⟨char, more, shape, other⟩
      · rwa [empty, String.empty_append]
      · exact ⟨char, more ++ next.2.toList, by rw [String.toList_append, shape, cons_append], other⟩
    rw [shifts]
    split
    · exact forall_mem_cons.mpr ⟨record, later⟩
    · exact later

lemma startsOtherwise_of_mem_recordsIn (reader : Reader) {now : Rat} {lines : List String}
    {bucket : Bucket} : ∀ record ∈ recordsIn (reader.shiftsOf now lines) bucket,
      StartsOtherwise record := by
  intro record listed
  obtain ⟨shift, held, rfl⟩ := mem_map.mp listed
  refine startsOtherwise_record (Or.inl rfl) (fun line stamped => ?_) shift (mem_filter.mp held).1
  obtain ⟨text, -, read⟩ := mem_filterMap.mp stamped
  split at read
  · cases read
  · obtain ⟨time, found, rfl⟩ := Option.map_eq_some_iff.mp read
    exact reader.starts text (by rw [found]; rfl)

lemma head?_moreMessages (value : Nat) : (moreMessages value).toList.head? = some 'T' := by
  have start : "There are more messages, total number is ".toList.head? = some 'T' := by
    decide
  unfold moreMessages
  rw [String.toList_append, head?_append, start]
  rfl

lemma getLast?_ne_moreMessages {records : List String}
    (otherwise : ∀ record ∈ records, StartsOtherwise record) (value : Nat) :
    records.getLast? ≠ some (moreMessages value) := by
  intro last
  obtain ⟨first, rest, shape, other⟩ := otherwise _ (mem_of_getLast? last)
  have note := head?_moreMessages value
  rw [shape] at note
  exact other (Option.some.inj note)

/-- A bucket of ten records loses one without saying so. -/
lemma not_accounts_of_ten (reader : Reader) (now : Rat) (lines : List String) {bucket : Bucket}
    (ten : (recordsIn (reader.shiftsOf now lines) bucket).length = 10) :
    ¬ Accounts (analyzeFile reader.timestamp now lines) (reader.shiftsOf now lines) := by
  intro accounts
  have listed := accounts.listed bucket
  unfold analyzeFile at listed
  rw [(counted_run reader now lines).output_append, if_neg (by omega), append_nil] at listed
  rcases listed with all | noted
  · have lengths := congrArg List.length all
    rw [length_take] at lengths
    omega
  · have otherwise := @startsOtherwise_of_mem_recordsIn reader now lines bucket
    exact getLast?_ne_moreMessages (fun record shown => otherwise record (mem_of_mem_take shown)) _
      noted

/-- The analysis accounts for the shifts of a file exactly if no bucket has ten of them. -/
theorem accounts_iff (reader : Reader) (now : Rat) (lines : List String) :
    Accounts (analyzeFile reader.timestamp now lines) (reader.shiftsOf now lines) ↔
      ∀ bucket, (recordsIn (reader.shiftsOf now lines) bucket).length ≠ 10 := by
  constructor
  · exact fun accounts bucket ten => not_accounts_of_ten reader now lines ten accounts
  · intro notTen
    have counted := counted_run reader now lines
    have above : ∀ shift ∈ reader.shiftsOf now lines, lowerShiftLimit < shift.seconds :=
      fun _ => lt_of_mem_shifts
    refine ⟨fun shift listed => existsUnique_holds (above shift listed), counted.counters, ?_,
      fun bucket => ?_⟩
    · have sum := total_eq_sum above
      rw [← funext counted.counters] at sum
      exact counted.total.trans sum
    · have other := notTen bucket
      unfold analyzeFile
      rw [counted.output_append]
      by_cases many : (recordsIn (reader.shiftsOf now lines) bucket).length > 10
      · rw [if_pos many]
        exact Or.inr getLast?_concat
      · rw [if_neg many, append_nil]
        exact Or.inl (take_of_length_le (by omega))

/-- The times of one minute, in UTC. -/
def minuteReader : Reader where
  timestamp line := do
    let rest ← Scan.literal "2021-11-09T14:22:".toList line.toList
    let seconds ← Scan.times Scan.isDigit 2 rest
    pure (1636467720 + Scan.digitsValue seconds.1)
  starts line read := by
    obtain ⟨time, read⟩ := Option.isSome_iff_exists.mp read
    obtain ⟨rest, scanned, -⟩ := Option.bind_eq_some_iff.mp read
    have first : "2021-11-09T14:22:".toList = '2' :: "021-11-09T14:22:".toList := by
      decide
    exact ⟨'2', _, by rw [Scan.literal_eq_append scanned, first, cons_append], by decide⟩

def minuteLines : List String :=
  ["20", "18", "16", "14", "12", "10", "08", "06", "04", "02", "00"].map fun seconds =>
    "2021-11-09T14:22:" ++ seconds ++ "\n"

/-- Ten shifts of two seconds: nine are listed, without a note. -/
theorem minuteLines_unaccounted :
    ¬ Accounts (analyzeFile minuteReader.timestamp (1636467720 + 60 * 60 * 24 * 365) minuteLines)
      (minuteReader.shiftsOf (1636467720 + 60 * 60 * 24 * 365) minuteLines) := by
  have ten : (recordsIn (minuteReader.shiftsOf (1636467720 + 60 * 60 * 24 * 365) minuteLines)
      .underMinute).length = 10 := by decide +kernel
  exact not_accounts_of_ten _ _ _ ten

end Sct.LogTime
