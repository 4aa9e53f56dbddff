import Grading.Report.Basic

/-!
# Document — reports as values

`toData` writes a report as a mapping, with the results once more in the shape in which they are
presented and with the summary; `ofData` reads what it needs of such a mapping. Reading checks that the
parts are there, not of what kind they are, so what it gives is a loose report. A report is a loose
report whose parts are of the kinds that reports have.
-/

namespace Grading

def Data.ofText? (s : Option String) : Data :=
  match s with
  | none => .null
  | some s => .text s

def Data.ofInt? (n : Option Int) : Data :=
  match n with
  | none => .null
  | some n => .int n

/-- What there is to go through in a value: the characters of a text, the keys of a mapping. -/
def Data.items? : Data → Option (List Data)
  | .text s => some (s.toList.map fun c => .text (String.ofList [c]))
  | .bytes bs => some (bs.map fun b => .int b.toNat)
  | .list xs => some xs
  | .pair a b => some [a, b]
  | .set xs => some xs
  | .map es => some (es.map (·.1))
  | _ => none

/-! ## 1. Loose reports -/

structure LooseError where
  message : Data
  file : Data
  line : Data
  column : Data
  code : Data
  deriving Inhabited

structure LooseResult where
  ruleId : Data
  name : Data
  passed : Data
  message : Data
  time : Data
  skipped : Data
  reason : Option FailureReason
  expected : Data
  actual : Data
  deriving Inhabited

structure LooseReport where
  exercise : Data
  status : Status
  tests : List LooseResult
  errors : List LooseError
  console : List Data
  time : Data
  token : Data
  deriving Inhabited

/-- The results counted; a part that counts as true will do for a truth value. -/
def LooseReport.summary (r : LooseReport) : Summary :=
  let passed := (r.tests.filter (·.passed.truthy)).length
  let skipped := (r.tests.filter (·.skipped.truthy)).length
  { total := r.tests.length, passed, skipped,
    failed := (r.tests.length : Int) - passed - skipped }

def LooseReport.shown (r : LooseReport) : String :=
  let s := r.summary
  "ExerciseRunReport(exercise=" ++ r.exercise.shown ++ ", status=" ++ r.status.text ++
    ", token=" ++ r.token.plain ++ ", passed=" ++ Nat.repr s.passed ++ "/" ++
    Nat.repr s.total ++ ", errors=" ++ Nat.repr r.errors.length ++ ")"

/-! ## 2. Writing -/

def LooseError.toData (e : LooseError) : Data :=
  .object [("message", e.message), ("file", e.file), ("line", e.line), ("column", e.column),
    ("code", e.code)]

def LooseResult.toData (r : LooseResult) : Data :=
  .object [("rule_id", r.ruleId), ("name", r.name), ("passed", r.passed), ("message", r.message),
    ("execution_time_ms", r.time), ("skipped", r.skipped),
    ("reason", .ofText? (r.reason.map FailureReason.text)), ("expected", r.expected),
    ("actual", r.actual)]

def LooseResult.presented (r : LooseResult) : Data :=
  .object [("name", r.name), ("passed", r.passed),
    ("error", if r.passed.truthy then .null else r.message), ("expected", r.expected),
    ("actual", r.actual), ("execution_time", r.time)]

def Summary.toData (s : Summary) : Data :=
  .object [("total", .int s.total), ("passed", .int s.passed), ("failed", .int s.failed),
    ("skipped", .int s.skipped)]

def LooseReport.toData (r : LooseReport) : Data :=
  .object [("exercise_id", r.exercise), ("status", .text r.status.text), ("run_token", r.token),
    ("total_execution_time", r.time), ("tests", .list (r.tests.map LooseResult.toData)),
    ("test_results", .list (r.tests.map LooseResult.presented)),
    ("compilation_errors", .list (r.errors.map LooseError.toData)),
    ("console_output", .list r.console), ("summary", r.summary.toData)]

def LooseReport.same (a b : LooseReport) : Bool := a.toData == b.toData

/-! ## 3. Reading -/

inductive DocumentError where
  | missing (key : String)
  | notStatus (value : String)
  | notReason (value : String)
  /-- A value that has no parts where a list is needed. -/
  | notList (kind : String)
  /-- A value without named parts where a mapping is needed. -/
  | notMapping (kind : String)
  /-- A value without named parts, first asked for one that may be absent. -/
  | noGet (kind : String)
  /-- A part of a kind that no report writes. -/
  | illTyped (key kind : String)
  deriving DecidableEq, Repr, Inhabited

def DocumentError.kind : DocumentError → String
  | .missing _ => "KeyError"
  | .notStatus _ => "ValueError"
  | .notReason _ => "ValueError"
  | .noGet _ => "AttributeError"
  | _ => "TypeError"

def DocumentError.text : DocumentError → String
  | .missing key => Text.quoted key
  | .notStatus v => v ++ " is not a valid ExerciseStatus"
  | .notReason v => v ++ " is not a valid FailureReason"
  | .notList kind => "'" ++ kind ++ "' object is not iterable"
  | .notMapping "list" => "list indices must be integers or slices, not str"
  | .notMapping "tuple" => "tuple indices must be integers or slices, not str"
  | .notMapping "bytes" => "byte indices must be integers or slices, not str"
  | .notMapping "str" => "string indices must be integers, not 'str'"
  | .notMapping kind => "'" ++ kind ++ "' object is not subscriptable"
  | .noGet kind => "'" ++ kind ++ "' object has no attribute 'get'"
  | .illTyped key kind => key ++ " of kind " ++ kind

/-- The entries of a mapping; of any other value, the error that its kind gives. -/
def entries (refusal : String → DocumentError) (d : Data) :
    Except DocumentError (List (Data × Data)) :=
  match d with
  | .map es => .ok es
  | d => .error (refusal d.kindName)

def need (es : List (Data × Data)) (key : String) : Except DocumentError Data :=
  match Data.field? es key with
  | some d => .ok d
  | none => .error (.missing key)

/-- The values to go through under a key; none if the key is absent. -/
def needList (es : List (Data × Data)) (key : String) : Except DocumentError (List Data) :=
  match Data.field? es key with
  | none => .ok []
  | some d =>
    match d.items? with
    | some xs => .ok xs
    | none => .error (.notList d.kindName)

def Status.ofData (d : Data) : Except DocumentError Status :=
  match Status.all.find? fun s => d == .text s.text with
  | some s => .ok s
  | none => .error (.notStatus d.shown)

def FailureReason.ofData (d : Data) : Except DocumentError (Option FailureReason) :=
  if !d.truthy then .ok none
  else match FailureReason.all.find? fun r => d == .text r.text with
    | some r => .ok (some r)
    | none => .error (.notReason d.shown)

def LooseError.ofData (d : Data) : Except DocumentError LooseError := do
  let es ← entries .notMapping d
  return { message := ← need es "message", file := Data.field es "file",
           line := Data.field es "line", column := Data.field es "column",
           code := Data.field es "code" }

/-- The first part asked for is the reason, which may be absent. -/
def LooseResult.ofData (d : Data) : Except DocumentError LooseResult := do
  let es ← entries .noGet d
  let ruleId ← need es "rule_id"
  return { ruleId, name := (Data.field? es "name").getD ruleId, passed := ← need es "passed",
           message := Data.field es "message",
           time := (Data.field? es "execution_time_ms").getD (.float 0),
           skipped := (Data.field? es "skipped").getD (.bool false),
           reason := ← FailureReason.ofData (Data.field es "reason"),
           expected := Data.field es "expected", actual := Data.field es "actual" }

def LooseReport.ofData (d : Data) : Except DocumentError LooseReport := do
  let es ← entries .notMapping d
  return { exercise := ← need es "exercise_id",
           status := ← Status.ofData (← need es "status"),
           tests := ← (← needList es "tests").mapM LooseResult.ofData,
           errors := ← (← needList es "compilation_errors").mapM LooseError.ofData,
           console := ← needList es "console_output",
           time := (Data.field? es "total_execution_time").getD (.float 0),
           token := (Data.field? es "run_token").getD (.int 0) }

/-! ## 4. Reports whose parts are of the right kinds

A report is written as the loose report that it is, and read by reading a loose report and then asking
for the kind of each part. -/

def CompilationError.loose (e : CompilationError) : LooseError where
  message := .text e.message
  file := .ofText? e.file
  line := .ofInt? e.line
  column := .ofInt? e.column
  code := .ofText? e.code

def RuleResult.loose (r : RuleResult) : LooseResult where
  ruleId := .text r.ruleId
  name := .text r.name
  passed := .bool r.passed
  message := r.message
  time := r.time.toData
  skipped := .bool r.skipped
  reason := r.reason
  expected := r.expected
  actual := r.actual

def Report.loose (r : Report) : LooseReport where
  exercise := .text r.exercise
  status := r.status
  tests := r.tests.map RuleResult.loose
  errors := r.errors.map CompilationError.loose
  console := r.console.map Data.text
  time := r.time.toData
  token := .int r.token

def CompilationError.toData (e : CompilationError) : Data := e.loose.toData

def RuleResult.toData (r : RuleResult) : Data := r.loose.toData

def Report.toData (r : Report) : Data := r.loose.toData

def asText (key : String) : Data → Except DocumentError String
  | .text s => .ok s
  | d => .error (.illTyped key d.kindName)

def asText? (key : String) : Data → Except DocumentError (Option String)
  | .null => .ok none
  | d => some <$> asText key d

def asInt (key : String) : Data → Except DocumentError Int
  | .int n => .ok n
  | d => .error (.illTyped key d.kindName)

def asInt? (key : String) : Data → Except DocumentError (Option Int)
  | .null => .ok none
  | d => some <$> asInt key d

def asBool (key : String) : Data → Except DocumentError Bool
  | .bool b => .ok b
  | d => .error (.illTyped key d.kindName)

def asNumber (key : String) (d : Data) : Except DocumentError Number :=
  match Number.ofData? d with
  | some n => .ok n
  | none => .error (.illTyped key d.kindName)

def LooseError.exact (e : LooseError) : Except DocumentError CompilationError := do
  return { message := ← asText "message" e.message, file := ← asText? "file" e.file,
           line := ← asInt? "line" e.line, column := ← asInt? "column" e.column,
           code := ← asText? "code" e.code }

def LooseResult.exact (r : LooseResult) : Except DocumentError RuleResult := do
  return { ruleId := ← asText "rule_id" r.ruleId, name := ← asText "name" r.name,
           passed := ← asBool "passed" r.passed, message := r.message,
           time := ← asNumber "execution_time_ms" r.time, skipped := ← asBool "skipped" r.skipped,
           reason := r.reason, expected := r.expected, actual := r.actual }

def LooseReport.exact (r : LooseReport) : Except DocumentError Report := do
  return { exercise := ← asText "exercise_id" r.exercise, status := r.status,
           tests := ← r.tests.mapM LooseResult.exact, errors := ← r.errors.mapM LooseError.exact,
           console := ← r.console.mapM (asText "console_output"),
           time := ← asNumber "total_execution_time" r.time, token := ← asInt "run_token" r.token }

def CompilationError.ofData (d : Data) : Except DocumentError CompilationError := do
  (← LooseError.ofData d).exact

def RuleResult.ofData (d : Data) : Except DocumentError RuleResult := do
  (← LooseResult.ofData d).exact

def Report.ofData (d : Data) : Except DocumentError Report := do
  (← LooseReport.ofData d).exact

end Grading
