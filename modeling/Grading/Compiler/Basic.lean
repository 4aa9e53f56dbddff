import Grading.Compiler.Diagnostics
import Grading.Files.Path
import Grading.Notice

/-!
# Compiler — texts made ready for the checks

A compiler turns the text of an exercise into the text that rules are checked on, and says what is
wrong with it. That something is wrong is part of its result; it fails only when it cannot run.
-/

namespace Grading

structure Compilation where
  text : String
  errors : List CompilationError := []
  console : List String := []
  deriving DecidableEq, Repr, Inhabited

inductive CompilerFailure where
  /-- The compiler says that it cannot run. -/
  | unable (text : String)
  /-- The operating system refused something. -/
  | system (text : String)
  | fault (fault : Fault)
  deriving DecidableEq, Repr, Inhabited

abbrev Compiler := String → Files.Path → Except CompilerFailure Compilation

def passthrough : Compiler := fun text _ => .ok { text }

end Grading
