import Grading.Compiler.Basic
import Grading.Exercise
import Grading.Files.Tree
import Grading.Report.Aggregate
import Grading.Rule.Evaluate
import Grading.Rule.Library

/-!
# Run — one run of an exercise

A run reads the file of an exercise, compiles it, finds the units that the rules look at, evaluates
the rules and makes a report. A run always ends with a report: one that cannot go on gives a failed
report with a single error and no results.
-/

namespace Grading

open Grading.Files

/-! ## 1. Failures -/

inductive RunFailure where
  /-- The compiler says that it cannot run. -/
  | compiler (text : String)
  /-- The operating system refused something. -/
  | system (text : String)
  | fault (fault : Fault)
  deriving DecidableEq, Repr, Inhabited

namespace RunFailure

def ofRead : ReadError → RunFailure
  | .system e name => .system (e.text name)
  | .encoding e => .fault ⟨"UnicodeDecodeError", e.text⟩

def ofCompiler : CompilerFailure → RunFailure
  | .unable text => .compiler text
  | .system text => .system text
  | .fault f => .fault f

def code : RunFailure → String
  | .compiler _ => "transpiler"
  | .system _ => "io"
  | .fault _ => "internal"

def message : RunFailure → String
  | .compiler text => text
  | .system text => "Cannot read exercise file: " ++ text
  | .fault f => "Unexpected error: " ++ f.kind ++ ": " ++ f.text

def notice (exercise : Exercise) : RunFailure → Notice
  | .compiler text => ⟨.warning, "Transpiler failed for " ++ exercise.id ++ ": " ++ text⟩
  | .system text => ⟨.warning, "Cannot read " ++ exercise.file.text ++ ": " ++ text⟩
  | .fault _ => ⟨.error, "Unexpected error running " ++ exercise.id⟩

def report (exercise : Exercise) (token : Int) (f : RunFailure) : Report :=
  let error : CompilationError :=
    { message := f.message, file := some exercise.file.text, code := some f.code }
  .aggregate exercise.id [] [error] [] token

end RunFailure

/-! ## 2. Runs -/

/-- The units that rules look at: the bodies of declarations and, if a rule asks for it, the whole
text. -/
def unitsOf (rules : List Rule) (text : String) : List (String × Option Source.SourceUnit) :=
  Source.locateAll text ((rules.filter fun r => !r.isWholeFile).map (·.appliesTo)) ++
    (if rules.any (·.isWholeFile) then [(Source.wholeFile, Source.wholeFileUnit text)] else [])

def unitText (units : List (String × Option Source.SourceUnit)) (target : String) : Option String :=
  (units.lookup target).join.map (·.text)

/-- What runs exercises: the rules, the compiler, and the evaluator that keeps compiled expressions. -/
structure Runner where
  library : Library
  compiler : Compiler := passthrough
  evaluator : Evaluator := {}

def Runner.compile (r : Runner) (tree : Tree) (exercise : Exercise) :
    Except RunFailure Compilation := do
  let source ← (tree.readText exercise.file).mapError .ofRead
  (r.compiler source exercise.file).mapError .ofCompiler

def noRulesNotice (exercise : String) : Notice :=
  ⟨.warning, "No rules registered for exercise " ++ exercise⟩

def Runner.run (r : Runner) (tree : Tree) (exercise : Exercise) (token : Int) :
    Report × List Notice × Runner :=
  let rules := r.library.rules exercise.id
  let first := if rules.isEmpty then [noRulesNotice exercise.id] else []
  match r.compile tree exercise with
  | .error f => (f.report exercise token, first ++ [f.notice exercise], r)
  | .ok c =>
    -- -- A unit is looked for once, however many rules look at it.
    let units := unitsOf rules c.text
    let (tests, notices, evaluator) := r.evaluator.evaluate (unitText units) rules
    (.aggregate exercise.id tests c.errors c.console token, first ++ notices, { r with evaluator })

end Grading
