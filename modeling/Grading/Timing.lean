import Grading.Decimal.Fixed
import Grading.Number

/-!
# Timing — durations

Readings of a clock are in seconds, durations in milliseconds.
-/

namespace Grading

/-- The readings that a clock is going to give; the last one repeats for ever. -/
abbrev Clock := List Number

def Clock.read : Clock → Number × Clock
  | [] => (.float 0, [])
  | [t] => (t, [t])
  | t :: ts => (t, ts)

/-- The milliseconds between two readings, never negative. -/
def elapsed (start stop : Number) : Float :=
  let ms := (stop.sub start).toFloat * 1000.0
  if 0.0 < ms then ms else 0.0

def thousandth : Number → Float
  | .int n => if n < 0 then -Float.ofScientific n.natAbs true 3 else Float.ofScientific n.natAbs true 3
  | .float x => x / 1000.0

/-- A duration for display: milliseconds with two decimals below one and one decimal below a
thousand, else seconds with two. A negative duration counts as zero. -/
def durationText (ms : Number) : String :=
  let ms := if ms.less (.int 0) then .int 0 else ms
  if ms.less (.int 1) then Decimal.fixedText 2 ms.toFloat ++ "ms"
  else if ms.less (.int 1000) then Decimal.fixedText 1 ms.toFloat ++ "ms"
  else Decimal.fixedText 2 (thousandth ms) ++ "s"

end Grading
