import Grading.Data.Basic
import Grading.Number

/-!
# Result — the outcome of a rule
-/

namespace Grading

inductive FailureReason where
  /-- The unit is not declared. -/
  | unitMissing
  /-- The unit is declared and a check failed. -/
  | checkUnmet
  /-- The rule itself is broken. -/
  | internalError
  deriving DecidableEq, Repr, Inhabited

def FailureReason.text : FailureReason → String
  | .unitMissing => "unit_missing"
  | .checkUnmet => "check_unmet"
  | .internalError => "internal_error"

def FailureReason.all : List FailureReason := [.unitMissing, .checkUnmet, .internalError]

/-- The outcome of one rule in one run. The absent message is the null value. -/
structure RuleResult where
  ruleId : String
  name : String
  passed : Bool
  message : Data := .null
  time : Number := .float 0
  skipped : Bool := false
  reason : Option FailureReason := none
  expected : Data := .null
  actual : Data := .null
  deriving Inhabited

def RuleResult.failed (r : RuleResult) : Bool := !r.passed && !r.skipped

end Grading
