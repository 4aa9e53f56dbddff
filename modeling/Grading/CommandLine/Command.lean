import Grading.CommandLine.Arguments
import Grading.Config.Load
import Grading.Data.Json
import Grading.Report.Document
import Grading.Report.Present
import Grading.Rule.Load
import Grading.Rule.Scaffold
import Grading.Run
import Grading.Source.Locate

/-!
# Command — what the command line does

A command is a function of its arguments and the files below the working directory. It gives what is
printed, the exit code and the files that are there afterwards.
-/

namespace Grading.CommandLine

open Grading.Console Grading.Files

/-! ## 1. Outcomes -/

inductive Exit where
  | success
  | failure
  /-- The configuration, the rules or the arguments are at fault. -/
  | misconfigured
  deriving DecidableEq, Repr, Inhabited

def Exit.code : Exit → Nat
  | .success => 0
  | .failure => 1
  | .misconfigured => 2

structure Outcome where
  exit : Exit := .success
  output : String := ""
  files : Tree
  deriving Inhabited

/-- A command under way: it either ends early or gives a value. -/
abbrev Step := Except (Exit × String)

structure Host where
  read : DocumentReader
  print : DocumentPrinter
  validate : ConfigValidator
  /-- What runs commands in the working directory of the files. -/
  launch : Tree → Launcher
  screen : Screen

namespace Host

def error (h : Host) (text : String) : String :=
  h.screen.line ("[red]Error:[/red] " ++ h.screen.escape text)

def warning (h : Host) (text : String) : String :=
  h.screen.line ("[yellow]Warning:[/yellow] " ++ h.screen.escape text)

def done (h : Host) (text : String) : String :=
  h.screen.line ("[green]✓[/green] " ++ h.screen.escape text)

end Host

/-! ## 2. Configuration and rules -/

def usualConfig : String := "exercise-verify.yaml"

def loadConfig (h : Host) (tree : Tree) (a : Arguments) : Step Config :=
  match Config.load h.read h.validate tree (tree.path ((a.value? "config").getD usualConfig)) with
  | .ok c => .ok c
  | .error (.fault _) => .error (.failure, "")
  | .error e => .error (.misconfigured, h.error ("Config error: " ++ e.text))

def loadLibrary (h : Host) (tree : Tree) (c : Config) : Step Library :=
  match (Library.load h.read tree c.resolvedRulesPaths).1 with
  | .ok l => .ok l
  | .error (.fault _) => .error (.failure, "")
  | .error e => .error (.misconfigured, h.error ("Rule library error: " ++ e.text))

def findExercise (h : Host) (c : Config) (id : String) : Step Exercise :=
  match c.exercise? id with
  | some e => .ok e
  | none => .error (.misconfigured, h.error (c.unknownText id))

/-- What runs the exercises of a configuration. Commands are run where the configuration is. -/
def loadRunner (h : Host) (tree : Tree) (c : Config) : Step Runner := do
  let library ← loadLibrary h tree c
  return { library, compiler := c.compiler.compiler (h.launch (tree.goTo c.base)) }

/-! ## 3. Commands -/

def runExercise (h : Host) (tree : Tree) (a : Arguments) (id : String) : Step (Exit × String) := do
  let config ← loadConfig h tree a
  let exercise ← findExercise h config id
  let runner ← loadRunner h tree config
  let report := (runner.run tree exercise 0).1
  let exit : Exit := if report.status = .completed then .success else .failure
  if a.has "json" then return (exit, report.toData.json (some 2) ++ "\n")
  match report.present h.screen with
  | (text, none) => return (exit, text)
  | (text, some _) => throw (.failure, text)

def watchExercises (h : Host) (tree : Tree) (a : Arguments) : Step (Exit × String) := do
  let config ← loadConfig h tree a
  let exercises ← if a.words.isEmpty then pure config.allExercises
    else a.words.mapM (findExercise h config)
  if exercises.isEmpty then throw (.misconfigured, h.error "No exercises configured")
  let _ ← loadRunner h tree config
  return (.success, h.screen.line ("Watching " ++ Nat.repr exercises.length ++
    " exercise(s), press Ctrl+C to stop"))

def locateUnit (h : Host) (tree : Tree) (file name : String) : Step (Exit × String) := do
  let path := tree.path file
  let source ← match tree.readText path with
    | .ok source => pure source
    | .error (.system e _) =>
      throw (.failure, h.error ("Cannot read " ++ path.text ++ ": " ++ e.text path.text))
    | .error (.encoding _) => throw (.failure, "")
  match Source.locate source name with
  | none => throw (.failure, h.error (name ++ " not found in " ++ path.text))
  | some u =>
    let head := "[cyan]" ++ h.screen.escape u.name ++ "[/cyan] (" ++ u.kind.text ++ ") offsets " ++
      Nat.repr u.start ++ "-" ++ Nat.repr u.stop
    return (.success, h.screen.line head ++ h.screen.raw u.text ++ "\n")

def libraryGrid (h : Host) (library : Library) (configured : List String) : Grid :=
  let ids := ((configured ++ library.ids).eraseDups).mergeSort (· ≤ ·)
  { title := some "Rule Library",
    columns := [{ heading := "Exercise" }, { heading := "Rules", justify := .right },
                { heading := "Configured" }],
    rows := ids.map fun id => [h.screen.escape id, Nat.repr (library.rules id).length,
      if configured.contains id then "yes" else "[dim]no[/dim]"] }

def listRules (h : Host) (tree : Tree) (a : Arguments) : Step (Exit × String) := do
  let config ← loadConfig h tree a
  let library ← loadLibrary h tree config
  let configured := config.exercises.map (·.id)
  let without := (configured.filter (!library.ids.contains ·)).mergeSort (· ≤ ·)
  return (.success, h.screen.table (libraryGrid h library configured) ++
    h.screen.line (Nat.repr library.totalRules ++ " rules across " ++ Nat.repr library.size ++
      " exercises") ++
    String.join (without.map fun id => h.warning ("Exercise " ++ id ++ " has no rules")))

def scaffoldRules (h : Host) (tree : Tree) (a : Arguments) (exercise : String) :
    Step (Exit × String × Tree) := do
  let text := scaffoldFile h.print exercise (a.values "unit")
  match a.value? "output" with
  | none => return (.success, h.screen.raw text, tree)
  | some output =>
    let path := tree.path output
    if tree.exists? path && !a.has "force" then
      throw (.failure, h.error (path.text ++ " already exists (use --force to overwrite)"))
    let above := (if path.isAbsolute then [] else tree.here) ++ path.parent.names
    let written := do
      let tree ← tree.makeDirectories [] above
      tree.write path (Text.encode text)
    match written with
    | .ok tree => return (.success, h.done ("Rule file written: " ++ path.text), tree)
    | .error _ => throw (.failure, "")

/-! ## 4. The command line -/

def configOptions : Options :=
  { switches := [("--verbose", "verbose"), ("-v", "verbose")],
    values := [("--config", "config"), ("-c", "config")] }

def optionsOf : List String → Options
  | ["run"] => { configOptions with switches := ("--json", "json") :: configOptions.switches }
  | ["watch"] =>
    { configOptions with
      switches := [("--initial", "initial"), ("--no-initial", "no-initial")] ++ configOptions.switches }
  | ["locate"] => { configOptions with values := [] }
  | ["rules", "list"] => configOptions
  | ["rules", "scaffold"] =>
    { switches := [("--force", "force")],
      values := [("--unit", "unit"), ("-u", "unit"), ("--output", "output"), ("-o", "output")] }
  | _ => {}

def split : List String → List String × List String
  | "rules" :: name :: rest => (["rules", name], rest)
  | name :: rest => ([name], rest)
  | [] => ([], [])

/-- Carries out a command whose arguments are understood; without a value they do not fit it. -/
def carryOut (h : Host) (tree : Tree) (name : List String) (a : Arguments) :
    Option (Step (Exit × String × Tree)) :=
  let keep (r : Step (Exit × String)) : Step (Exit × String × Tree) :=
    r.map fun (exit, output) => (exit, output, tree)
  match name, a.words with
  | ["run"], [id] => some (keep (runExercise h tree a id))
  | ["watch"], _ => some (keep (watchExercises h tree a))
  | ["locate"], [file, unit] => some (keep (locateUnit h tree file unit))
  | ["rules", "list"], [] => some (keep (listRules h tree a))
  | ["rules", "scaffold"], [exercise] =>
    if (a.values "unit").isEmpty then none else some (scaffoldRules h tree a exercise)
  | _, _ => none

def run (h : Host) (tree : Tree) (args : List String) : Outcome :=
  let (name, rest) := split args
  match (readArguments (optionsOf name) rest).bind (carryOut h tree name) with
  | none => { exit := .misconfigured, files := tree }
  | some (.error (exit, output)) => { exit, output, files := tree }
  | some (.ok (exit, output, files)) => { exit, output, files }

end Grading.CommandLine
