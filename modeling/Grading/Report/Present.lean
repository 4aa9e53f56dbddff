import Grading.Console.Basic
import Grading.Notice
import Grading.Report.Basic
import Grading.Timing

/-!
# Present — reports for people to read

A report is shown as the exercise and its status, what the compiler found, a table of the results,
what the compiler printed, and a count.
-/

namespace Grading

open Grading.Console

def Status.markup (s : Status) : String :=
  let style := match s with
    | .notStarted => "dim"
    | .inProgress => "yellow"
    | .completed => "bold green"
    | .failed => "bold red"
  "[" ++ style ++ "]" ++ s.text ++ "[/" ++ style ++ "]"

def RuleResult.mark (r : RuleResult) : String :=
  if r.passed then "[green]✓[/green]"
  else if r.skipped then "[yellow]-[/yellow]"
  else "[red]✗[/red]"

def RuleResult.messageText (r : RuleResult) : Except Fault String :=
  if !r.message.truthy then .ok ""
  else
    match r.message with
    | .text s => .ok s
    | .bytes _ => .error ⟨"TypeError", "cannot use a string pattern on a bytes-like object"⟩
    | d => .error ⟨"TypeError", "expected string or bytes-like object, got '" ++ d.kindName ++ "'"⟩

def RuleResult.row (s : Screen) (r : RuleResult) : Except Fault (List String) := do
  return [r.mark, s.escape r.name, s.escape (← r.messageText), durationText r.time]

namespace Report

variable (s : Screen) (r : Report)

def grid : Except Fault Grid := do
  return { columns := [{ heading := "", cells := some 2 }, { heading := "Check" },
                       { heading := "Message" }, { heading := "Time", justify := .right }],
           rows := ← r.tests.mapM (·.row s) }

def presentHead : String :=
  let errors := r.errors.map fun e => s.line ("  [red]✗[/red] " ++ s.escape e.text)
  s.line ("[bold]" ++ s.escape r.exercise ++ "[/bold]: " ++ r.status.markup) ++
    (if errors.isEmpty then "" else s.line "[bold red]Compilation errors:[/bold red]") ++
    String.join errors

def presentTail : String :=
  let counts := r.summary
  String.join (r.console.map fun text => s.line ("[dim]" ++ s.escape text ++ "[/dim]")) ++
    s.line (Nat.repr counts.passed ++ "/" ++ Nat.repr counts.total ++ " passed, " ++
      Data.intText counts.failed ++ " failed, " ++ Nat.repr counts.skipped ++ " skipped in " ++
      durationText r.time)

def present : String × Option Fault :=
  match grid s r with
  | .error f => (presentHead s r, some f)
  | .ok g =>
    (presentHead s r ++ (if r.tests.isEmpty then "" else s.table g) ++ presentTail s r, none)

end Report

end Grading
