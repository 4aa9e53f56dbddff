import Grading.Config.Basic
import Grading.Data.Show

/-!
# Backoff — how long to wait before a failed watch is tried again

The delay doubles from attempt to attempt up to a greatest one, and a share of it that chance decides
is added.
-/

namespace Grading.Watch

/-- The numbers between zero and one that chance is going to give; the last one repeats for ever. -/
abbrev Chance := List Number

def Chance.draw : Chance → Number × Chance
  | [] => (.float 0, [])
  | [u] => (u, [u])
  | u :: us => (u, us)

/-- The settings of the delays; they are in seconds. -/
structure Backoff where
  maxAttempts : Int := 5
  baseDelay : Number := .float 0.5
  maxDelay : Number := .float 10.0
  /-- The greatest share of a delay that is added to it. -/
  jitter : Number := .float 0.2
  deriving Inhabited

structure NumberTooLarge where
  deriving DecidableEq, Repr

def NumberTooLarge.text (_ : NumberTooLarge) : String := "int too large to convert to float"

namespace Backoff

def ofSettings (w : WatchSettings) : Backoff :=
  { maxAttempts := w.maxAttempts, baseDelay := .float w.baseDelay, maxDelay := .float w.maxDelay }

def times (a b : Number) : Except NumberTooLarge Number :=
  match a, b with
  | .int m, .int n => .ok (.int (m * n))
  | a, b =>
    let tooLarge : Number → Bool
      | .int n => (Data.floatOfInt n).isInf
      | .float _ => false
    if tooLarge a || tooLarge b then .error {} else .ok (.float (a.toFloat * b.toFloat))

def twoTo (n : Int) : Number := if n < 0 then .float ((1.0 : Float).scaleB n) else .int (Nat.pow 2 n.toNat)

/-- The delay of an attempt, counted from zero, before chance adds to it. -/
def capped (b : Backoff) (attempt : Int) : Except NumberTooLarge Number := do
  let grown ← times b.baseDelay (twoTo attempt)
  return if b.maxDelay.less grown then b.maxDelay else grown

def delay (b : Backoff) (attempt : Int) (u : Number) : Except NumberTooLarge Number := do
  let delay ← b.capped attempt
  times delay (Number.add (.int 1) (Number.add (.int 0) (← times b.jitter u)))

def shown (b : Backoff) : String :=
  "ReestablishBackoff(attempts=" ++ Data.intText b.maxAttempts ++ ", base_delay=" ++
    b.baseDelay.toData.shown ++ "s, max_delay=" ++ b.maxDelay.toData.shown ++ "s, jitter=" ++
    b.jitter.toData.shown ++ ")"

end Backoff

end Grading.Watch
