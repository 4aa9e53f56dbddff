import Grading.Compiler.Command
import Grading.Exercise
import Grading.Timing

/-!
# Config — what an installation is set up with

A configuration names the places of rules, the exercises, the compiler and how files are watched.
Relative paths count from the directory of the configuration file.
-/

namespace Grading

open Grading.Files

inductive CompilerKind where
  | passthrough
  | command
  deriving DecidableEq, Repr, Inhabited

def CompilerKind.text : CompilerKind → String
  | .passthrough => "passthrough"
  | .command => "command"

def CompilerKind.ofText? (s : String) : Option CompilerKind :=
  [CompilerKind.passthrough, CompilerKind.command].find? (·.text = s)

structure CompilerSettings where
  kind : CompilerKind := .passthrough
  command : List String := []
  output : OutputMode := .source
  timeout : Option Float := none
  deriving Inhabited

def CompilerSettings.compiler (s : CompilerSettings) (launch : Launcher) : Compiler :=
  match s.kind with
  | .passthrough => passthrough
  | .command =>
    match Command.ofWords? s.command s.output (s.timeout.map Number.float) with
    | some c => c.compiler launch
    | none => passthrough

/-- How files are watched; delays are in seconds. -/
structure WatchSettings where
  /-- The quiet time after which a burst of changes leads to one run. -/
  debounceMs : Nat := 300
  ignoreHidden : Bool := true
  maxAttempts : Nat := 5
  baseDelay : Float := 0.5
  maxDelay : Float := 10.0
  deriving Inhabited

def WatchSettings.debounce (s : WatchSettings) : Float := thousandth (.int s.debounceMs)

structure Config where
  rulesPaths : List Path := [.ofText "rules"]
  exercises : List Exercise := []
  compiler : CompilerSettings := {}
  watch : WatchSettings := {}
  /-- The directory of the configuration file. -/
  base : Path
  deriving Inhabited

namespace Config

def resolve (c : Config) (p : Path) : Path := c.base.join p

def resolvedRulesPaths (c : Config) : List Path := c.rulesPaths.map c.resolve

def resolved (c : Config) (e : Exercise) : Exercise := { e with file := c.resolve e.file }

def allExercises (c : Config) : List Exercise := c.exercises.map c.resolved

def exercise? (c : Config) (id : String) : Option Exercise :=
  (c.exercises.find? (·.id = id)).map c.resolved

def unknownText (c : Config) (id : String) : String :=
  let known := if c.exercises.isEmpty then "none" else ", ".intercalate (c.exercises.map (·.id))
  "Unknown exercise '" ++ id ++ "' (configured: " ++ known ++ ")"

end Config

end Grading
