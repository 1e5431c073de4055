import Mathlib.Data.Rat.Floor

/-!
# The windows of interval summaries

`build_histograms_summary_with_interval` of `sdcm/utils/hdrhistogram.py`, as far as the windows that
its summaries are built for. Times are rational numbers. What `range` raises is logged and raised
again.
-/

namespace Sct.Utils

/-- `int | float`. -/
inductive Number where
  | int (value : Int)
  | float (value : ℚ)

def Number.value : Number → ℚ
  | .int value => value
  | .float value => value

def timeInterval : Int := 600

/-- `int(time)`: the fraction is cut off. -/
def truncate (time : ℚ) : Int := if time < 0 then ⌈time⌉ else ⌊time⌋

/-- `range(start, stop, step)`. -/
def steps (start stop step : Int) : Except String (List Int) :=
  let (span, width) := if 0 < step then (stop - start, step) else (start - stop, -step)
  if step = 0 then .error "range() arg 3 must not be zero"
  else
    .ok ((List.range ((span + width - 1) / width).toNat).map fun (index : Nat) =>
      start + index * step)

def windowStep (startTs endTs : Int) (interval : Number) : Number :=
  if ((endTs - startTs : Int) : ℚ) < interval.value then .int (endTs - startTs)
  else if interval.value = 0 then .int timeInterval
  else interval

def window (endTs step startInterval : Int) : Int × Int :=
  (startInterval, if startInterval + step > endTs then endTs else startInterval + step)

def summaryWindows (startTime endTime : ℚ) (interval : Number) :
    Except String (List (Int × Int)) := do
  let startTs := truncate startTime
  let endTs := truncate endTime
  match windowStep startTs endTs interval with
  | .float _ => .error "'float' object cannot be interpreted as an integer"
  | .int step =>
    let startIntervals ← steps startTs endTs step
    pure (startIntervals.map (window endTs step))

end Sct.Utils
