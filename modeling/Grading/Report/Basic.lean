import Grading.Data.Show
import Grading.Rule.Result
import Grading.Text.Blank

/-!
# Report — the result of a run

A report carries the results of the rules, what the compiler found and what it printed. Its status is
derived from them.
-/

namespace Grading

inductive Status where
  | notStarted
  | inProgress
  | completed
  | failed
  deriving DecidableEq, Repr, Inhabited

def Status.text : Status → String
  | .notStarted => "not_started"
  | .inProgress => "in_progress"
  | .completed => "completed"
  | .failed => "failed"

def Status.all : List Status := [.notStarted, .inProgress, .completed, .failed]

structure CompilationError where
  message : String
  file : Option String := none
  line : Option Int := none
  column : Option Int := none
  code : Option String := none
  deriving DecidableEq, Repr, Inhabited

def CompilationError.text (e : CompilationError) : String :=
  let place := ":".intercalate
    (e.file.toList ++ e.line.toList.map Data.intText ++ e.column.toList.map Data.intText)
  let code := match e.code with
    | none => ""
    | some c => if c.isEmpty then "" else "[" ++ c ++ "] "
  String.ofList (Text.trim (place ++ " " ++ code ++ e.message).toList)

structure Report where
  exercise : String
  status : Status
  tests : List RuleResult := []
  errors : List CompilationError := []
  console : List String := []
  time : Number := .float 0
  token : Int := 0
  deriving Inhabited

structure Summary where
  total : Nat
  passed : Nat
  failed : Int
  skipped : Nat
  deriving DecidableEq, Repr, Inhabited

/-- The results counted; those that neither passed nor were skipped failed. -/
def Report.summary (r : Report) : Summary :=
  let passed := (r.tests.filter (·.passed)).length
  let skipped := (r.tests.filter (·.skipped)).length
  { total := r.tests.length, passed, skipped,
    failed := (r.tests.length : Int) - passed - skipped }

def Report.shown (r : Report) : String :=
  let s := r.summary
  "ExerciseRunReport(exercise=" ++ Text.quoted r.exercise ++ ", status=" ++ r.status.text ++
    ", token=" ++ Data.intText r.token ++ ", passed=" ++ Nat.repr s.passed ++ "/" ++
    Nat.repr s.total ++ ", errors=" ++ Nat.repr r.errors.length ++ ")"

end Grading
