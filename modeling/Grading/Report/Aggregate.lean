import Grading.Report.Basic

/-!
# Aggregate — reports from results

With errors of the compiler a run failed, and a unit that was not found is most likely a consequence:
its results are skipped. Without them a run is completed exactly when every result passed.
-/

namespace Grading

def deriveStatus (tests : List RuleResult) (errors : List CompilationError) : Status :=
  if !errors.isEmpty then .failed
  else if tests.all (·.passed) then .completed
  else .failed

def skippedMessage (name : String) : String :=
  "Skipped: compilation must succeed before " ++ name ++ " can be checked"

def RuleResult.skipForCompilation (r : RuleResult) : RuleResult :=
  if r.reason = some .unitMissing then
    { r with passed := false, skipped := true, message := .text (skippedMessage r.name) }
  else r

def Report.aggregate (exercise : String) (tests : List RuleResult) (errors : List CompilationError)
    (console : List String) (token : Int) : Report :=
  let tests := if errors.isEmpty then tests else tests.map RuleResult.skipForCompilation
  -- -- The status is that of the results as they are shown.
  { exercise, status := deriveStatus tests errors, tests, errors, console,
    time := Number.sum (tests.map (·.time)), token }

def Report.pending (exercise : String) (token : Int) : Report :=
  { exercise, status := .inProgress, token }

def Report.notStarted (exercise : String) : Report := { exercise, status := .notStarted }

end Grading
