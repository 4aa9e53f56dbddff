import Grading.Data.Basic

/-!
# Number — whole and floating-point numbers

A number keeps its kind: sums of whole numbers are whole, and one floating-point operand makes the
result one.
-/

namespace Grading

inductive Number where
  | int (n : Int)
  | float (x : Float)
  deriving Inhabited

namespace Number

def toFloat : Number → Float
  | .int n => Data.floatOfInt n
  | .float x => x

def toData : Number → Data
  | .int n => .int n
  | .float x => .float x

/-- The number that a value is; truth values are none. -/
def ofData? : Data → Option Number
  | .int n => some (.int n)
  | .float x => some (.float x)
  | _ => none

def add : Number → Number → Number
  | .int a, .int b => .int (a + b)
  | a, b => .float (a.toFloat + b.toFloat)

def sub : Number → Number → Number
  | .int a, .int b => .int (a - b)
  | a, b => .float (a.toFloat - b.toFloat)

def sum (xs : List Number) : Number := xs.foldl add (.int 0)

def less : Number → Number → Bool
  | .int a, .int b => a < b
  | a, b => a.toFloat < b.toFloat

end Number

end Grading
