/-!
# Notice — what is told to the operator, and faults of foreign code

A notice is a line of the log. A fault is the failure of code that the library was handed: the name
of its kind and its text.
-/

namespace Grading

inductive Level where
  | warning
  | error
  deriving DecidableEq, Repr, Inhabited

def Level.text : Level → String
  | .warning => "WARNING"
  | .error => "ERROR"

structure Notice where
  level : Level
  text : String
  deriving DecidableEq, Repr, Inhabited

/-- The failure of code that the library was handed. -/
structure Fault where
  kind : String
  text : String
  deriving DecidableEq, Repr, Inhabited

end Grading
