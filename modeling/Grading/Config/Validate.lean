import Grading.Config.Check
import Grading.Config.Load

/-!
# Validate — configurations from mappings

What a mapping leaves out has its default. Keys that mean nothing are issues.
-/

namespace Grading

open Grading.Files

/-! ## 1. Parts -/

def checkPath (d : Data) : Checked Path :=
  match d with
  | .text s => .ok (.ofText s)
  | _ => .fail .pathType

def checkExercise (d : Data) : Checked Exercise := do
  let es ← checkModel d
  let id := checkNeeded es "id" fun d => (checkText d).ensure (! ·.isEmpty) .stringTooShort
  let file := checkNeeded es "file_path" checkPath
  let ((id, file), _) ← (id.both file).both (checkKnownKeys ["id", "file_path"] es)
  return { id, file }

def checkSeconds (d : Data) : Checked Float := (checkFloat d).ensure (fun x => !(x ≤ 0.0)) .greaterThan

def checkUpTo (most : Nat) (d : Data) : Checked Nat :=
  (((checkInt d).ensure (0 ≤ ·) .greaterThanEqual).ensure (· ≤ (most : Int)) .lessThanEqual).map Int.toNat

def commandRequired : String :=
  "Value error, transpiler.command is required when transpiler.kind is 'command'"

def checkCompiler (d : Data) : Checked CompilerSettings := do
  let es ← checkModel d
  let kind := checkField es "kind" .passthrough (checkName CompilerKind.ofText?)
  let command := checkField es "command" [] (checkItems checkText)
  let output := checkField es "output" .source (checkName OutputMode.ofText?)
  let timeout := checkField es "timeout_seconds" none fun d =>
    match d with
    | .null => .ok none
    | d => (checkSeconds d).map some
  let keys := checkKnownKeys ["kind", "command", "output", "timeout_seconds"] es
  let (kind, command, output, timeout, _) ← kind.both (command.both (output.both (timeout.both keys)))
  if kind = .command && command.isEmpty then .fail (.value commandRequired)
  return { kind, command, output, timeout }

def checkWatch (d : Data) : Checked WatchSettings := do
  let es ← checkModel d
  let usual : WatchSettings := {}
  let debounce := checkField es "debounce_ms" usual.debounceMs (checkUpTo 60000)
  let hidden := checkField es "ignore_hidden" usual.ignoreHidden checkBool
  let attempts := checkField es "max_reestablish_attempts" usual.maxAttempts (checkUpTo 100)
  let base := checkField es "reestablish_base_delay_seconds" usual.baseDelay checkSeconds
  let most := checkField es "reestablish_max_delay_seconds" usual.maxDelay checkSeconds
  let keys := checkKnownKeys ["debounce_ms", "ignore_hidden", "max_reestablish_attempts",
    "reestablish_base_delay_seconds", "reestablish_max_delay_seconds"] es
  let (debounceMs, ignoreHidden, maxAttempts, baseDelay, maxDelay, _) ←
    debounce.both (hidden.both (attempts.both (base.both (most.both keys))))
  return { debounceMs, ignoreHidden, maxAttempts, baseDelay, maxDelay }

/-! ## 2. Configurations -/

def firstRepeated (seen : List String) : List String → Option String
  | [] => none
  | id :: ids => if seen.contains id then some id else firstRepeated (id :: seen) ids

/-- The key that the directory of the file is put under, whatever the mapping says. -/
def baseKey : String := "base_dir"

def checkConfig (base : Path) (es : List (Data × Data)) : Checked Config := do
  let rules := checkField es "rules_paths" [.ofText "rules"] (checkItems checkPath)
  let exercises := checkField es "exercises" [] (checkItems checkExercise)
  let compiler := checkField es "transpiler" {} checkCompiler
  let watch := checkField es "watch" {} checkWatch
  let keys := checkKnownKeys ["rules_paths", "exercises", "transpiler", "watch", baseKey] es
  let (rulesPaths, exercises, compiler, watch, _) ←
    rules.both (exercises.both (compiler.both (watch.both keys)))
  match firstRepeated [] (exercises.map (·.id)) with
  | some id => .fail (.value ("Value error, Duplicate exercise id: " ++ id))
  | none => return { rulesPaths, exercises, compiler, watch, base }

def Config.validate : ConfigValidator := fun base es => (checkConfig base es).mapError .issues

end Grading
