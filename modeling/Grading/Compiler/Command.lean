import Grading.Compiler.Basic
import Grading.Files.Tree
import Grading.Number

/-!
# Command — compilers that are commands

A command reads the text from its standard input. Its output is read for errors, and it gives the
compiled text if it is asked to. A command that fails without saying why leaves one error all the
same.
-/

namespace Grading

open Grading.Text Grading.Files

/-! ## 1. Running commands -/

inductive Launch where
  /-- There is no such program. -/
  | missing
  /-- The operating system refused to start it. -/
  | refused (error : SystemError)
  /-- An argument holds the character that ends arguments. -/
  | badArgument
  | timedOut
  | finished (stdout stderr : List UInt8) (code : Int)
  deriving DecidableEq, Repr, Inhabited

/-- What runs commands: a function of the arguments, the standard input and the time limit. -/
abbrev Launcher := List String → List UInt8 → Option Number → Launch

/-! ## 2. Commands -/

inductive OutputMode where
  /-- The text stays as it is. -/
  | source
  /-- The command prints it. -/
  | stdout
  deriving DecidableEq, Repr, Inhabited

def OutputMode.text : OutputMode → String
  | .source => "source"
  | .stdout => "stdout"

def OutputMode.ofText? (s : String) : Option OutputMode :=
  [OutputMode.source, OutputMode.stdout].find? (·.text = s)

/-- A command with its arguments; `timeout` is in seconds. -/
structure Command where
  program : String
  arguments : List String := []
  output : OutputMode := .source
  timeout : Option Number := none
  deriving Inhabited

namespace Command

def emptyText : String := "command must not be empty"

def ofWords? (words : List String) (output : OutputMode) (timeout : Option Number) : Option Command :=
  match words with
  | [] => none
  | program :: arguments => some { program, arguments, output, timeout }

def words (c : Command) : List String := c.program :: c.arguments

def placeholder : String := "\x7bfile\x7d"

def fill (path argument : String) : String := path.intercalate (argument.splitOn placeholder)

def filled (c : Command) (file : Path) : List String := c.words.map (fill file.text)

def filledProgram (c : Command) (file : Path) : String := fill file.text c.program

def timeoutText (c : Command) : String :=
  match c.timeout with
  | none => "None"
  | some n => n.toData.shown

def shown (c : Command) : String :=
  "CommandTranspiler(command=" ++ quotedList c.words ++ ", output=" ++ quoted c.output.text ++
    ", timeout_seconds=" ++ c.timeoutText ++ ")"

def name : String := "CommandTranspiler"

/-! ## 3. Results -/

def spoken? (s : List Char) : Option String :=
  let t := trim s
  if t.isEmpty then none else some (String.ofList t)

/-- The message of a command that failed: what it said, on either output, or its code. -/
def failureMessage (stdout stderr : List Char) (code : Int) : String :=
  ((spoken? stderr).or (spoken? stdout)).getD ("exited with code " ++ Data.intText code)

/-- The errors of a finished command; one that failed has at least one. -/
def errorsOf (stdout stderr : List Char) (code : Int) (file : Path) (errors : List CompilationError) :
    List CompilationError :=
  if code ≠ 0 && errors.isEmpty then
    [{ message := failureMessage stdout stderr code, file := some file.text }]
  else errors

def finish (mode : OutputMode) (source : String) (file : Path) (stdout stderr : List Char)
    (code : Int) : Except NumberTooLong Compilation := do
  -- -- Where the result is printed, errors come on the other output only.
  let output := match mode with
    | .stdout => stderr
    | .source => stdout ++ '\n' :: stderr
  let d ← Diagnostics.read output
  let text := match mode with
    | .stdout => if code = 0 then String.ofList stdout else ""
    | .source => source
  return { text, errors := errorsOf stdout stderr code file d.errors, console := d.other }

def compile (c : Command) (launch : Launcher) (source : String) (file : Path) :
    Except CompilerFailure Compilation :=
  match launch (c.filled file) (encode source) c.timeout with
  | .missing => .error (.unable ("Transpiler executable not found: " ++ c.filledProgram file))
  | .refused e =>
    let program := c.filledProgram file
    .error (.unable ("Failed to start transpiler " ++ program ++ ": " ++ e.text program))
  | .badArgument => .error (.fault ⟨"ValueError", "embedded null byte"⟩)
  | .timedOut =>
    .error (.unable ("Transpiler timed out after " ++ c.timeoutText ++ "s: " ++ c.filledProgram file))
  | .finished stdout stderr code =>
    match finish c.output source file (decodeLossy stdout) (decodeLossy stderr) code with
    | .ok result => .ok result
    | .error e => .error (.fault ⟨"ValueError", e.text⟩)

def compiler (c : Command) (launch : Launcher) : Compiler := c.compile launch

end Command

end Grading
