import Grading.Pattern.Match
import Grading.Pattern.Parse
import Grading.Rule.Basic
import Grading.Rule.Result
import Grading.Timing

/-!
# Evaluate — rules against units

A rule is evaluated by running all of its checks on the text of its unit. The first step of its
diagnostics whose check failed gives the message, or else the rule's fallback message, or else a
message about the first check that failed. A rule that is broken gives a result of its own and never
stops the others. Compiled expressions are kept from one evaluation to the next.
-/

namespace Grading

open Grading.Text

/-! ## 1. Errors -/

inductive EvaluationError where
  | invalidPattern (source : String) (error : Pattern.Error)
  /-- A group of a match ends before it begins. -/
  | wrongGroupSpan
  | unknownCheck (kind : CheckKind) (label : Option String)
  /-- The rule's predicate failed. -/
  | predicate (fault : Fault)
  /-- A number in a message has more digits than are written. -/
  | numberTooLong
  deriving DecidableEq, Repr, Inhabited

def EvaluationError.kind : EvaluationError → String
  | .invalidPattern _ e => e.kind?.getD "RuleEvaluationError"
  | .wrongGroupSpan => "SystemError"
  | .unknownCheck .. => "RuleEvaluationError"
  | .predicate f => f.kind
  | .numberTooLong => "ValueError"

def EvaluationError.text : EvaluationError → String
  | .invalidPattern source e =>
    let text := e.text source.toList
    if e.kind?.isNone then "Invalid regex marker '" ++ source ++ "': " ++ text else text
  | .wrongGroupSpan =>
    "The span of capturing group is wrong, please report a bug for the re module."
  | .unknownCheck kind label =>
    "Diagnostic step refers to unknown " ++ kind.text ++ " check '" ++ label.getD "None" ++ "'"
  | .predicate f => f.text
  | .numberTooLong => tooLongToWrite

/-! ## 2. Compiled expressions -/

/-- The expressions compiled so far, each with the use of case it was compiled for. -/
abbrev Compiled := List ((String × Bool) × Pattern)

/-- Part of an evaluation: it may compile expressions, which are kept when it fails. -/
abbrev Evaluation := ExceptT EvaluationError (StateM Compiled)

/-- Compiles an expression for a use of case. A dot matches every character unless the expression says
otherwise. -/
def compileFor (source : String) (ignoreCase : Bool) : Except Pattern.Error Pattern :=
  (Pattern.compile source.toList).map fun p =>
    { p with flags :=
      { p.flags with ignoreCase := p.flags.ignoreCase || ignoreCase, dotAll := true } }

def compiled (source : String) (ignoreCase : Bool) : Evaluation Pattern := do
  match (← get).lookup (source, ignoreCase) with
  | some p => return p
  | none =>
    match compileFor source ignoreCase with
    | .error e => throw (.invalidPattern source e)
    | .ok p =>
      -- -- Only what compiles is kept; anything else is tried again each time.
      modify fun known => ((source, ignoreCase), p) :: known
      return p

/-! ## 3. Counting -/

/-- How often a text occurs in another, no occurrence overlapping an earlier one; `skip` characters
belong to the last occurrence. -/
def occurrencesFrom (needle : List Char) : Nat → List Char → Nat
  | _, [] => 0
  | skip + 1, _ :: r => occurrencesFrom needle skip r
  | 0, c :: r =>
    if needle.isPrefixOf (c :: r) then occurrencesFrom needle (needle.length - 1) r + 1
    else occurrencesFrom needle 0 r

/-- How often a text occurs in another; the empty text occurs around every character. -/
def occurrences (needle text : List Char) : Nat :=
  if needle.isEmpty then text.length + 1 else occurrencesFrom needle 0 text

def countPattern (ignoreCase : Bool) (pattern text : String) : Evaluation Nat := do
  match expression? pattern with
  | some source =>
    match Pattern.countMatches (← compiled source ignoreCase) text.toList with
    | some n => return n
    | none => throw .wrongGroupSpan
  | none =>
    if ignoreCase then return occurrences (lower pattern.toList) (lower text.toList)
    else return occurrences pattern.toList text.toList

/-- How often the most frequent alternative of a marker occurs in a text. -/
def Marker.count (m : Marker) (ignoreCase : Bool) (text : String) : Evaluation Nat := do
  let counts ← m.patterns.mapM (countPattern ignoreCase · text)
  return counts.foldl max 0

/-! ## 4. Checks -/

structure CheckOutcome where
  kind : CheckKind
  met : Bool
  marker : Option Marker := none
  observed : Option Nat := none
  deriving DecidableEq, Repr, Inhabited

def requiredOutcome (ignoreCase : Bool) (text : String) (m : Marker) : Evaluation CheckOutcome := do
  let n ← m.count ignoreCase text
  return { kind := .required, met := m.minCount ≤ n, marker := some m, observed := some n }

def forbiddenOutcome (ignoreCase : Bool) (text : String) (m : Marker) : Evaluation CheckOutcome := do
  let n ← m.count ignoreCase text
  return { kind := .forbidden, met := n < m.minCount, marker := some m, observed := some n }

def Rule.runChecks (r : Rule) (text : String) : Evaluation (List CheckOutcome) := do
  let required ← r.required.mapM (requiredOutcome r.ignoreCase text)
  let forbidden ← r.forbidden.mapM (forbiddenOutcome r.ignoreCase text)
  let length := match r.minLength with
    | none => []
    | some n => [{ kind := .minLength, met := n ≤ text.length, observed := some text.length }]
  let predicate ← match r.predicate with
    | none => pure []
    | some p =>
      match p text with
      | .ok met => pure [{ kind := .predicate, met }]
      | .error f => throw (.predicate f)
  return required ++ forbidden ++ length ++ predicate

/-! ## 5. Results -/

def DiagnosticStep.looksAt (s : DiagnosticStep) (o : CheckOutcome) : Bool :=
  o.kind = s.check && (match o.marker with
    | none => true
    | some m => s.marker = some m.label)

def DiagnosticStep.outcome (s : DiagnosticStep) (outcomes : List CheckOutcome) :
    Except EvaluationError CheckOutcome :=
  match outcomes.find? s.looksAt with
  | some o => .ok o
  | none => .error (.unknownCheck s.check s.marker)

def Rule.failure (r : Rule) (o : CheckOutcome) (message : Data) : RuleResult :=
  let observed := match o.observed with
    | some n => Data.int n
    | none => .null
  let (expected, actual) : Data × Data :=
    match o.kind, o.marker with
    | .required, some m => (.text m.label, observed)
    | .forbidden, some m => (.null, .text m.label)
    | .minLength, _ => ((match r.minLength with
        | some n => Data.int n
        | none => .null), observed)
    | _, _ => (.null, .null)
  { ruleId := r.id, name := r.displayName, passed := false, message, reason := some .checkUnmet,
    expected, actual }

def numberText : Option Int → Except EvaluationError String
  | none => .ok "None"
  | some n => if isTooLongToWrite n.natAbs then .error .numberTooLong else .ok (Data.intText n)

def Rule.defaultMessage (r : Rule) (o : CheckOutcome) : Except EvaluationError String := do
  let target := r.targetName
  match o.kind, o.marker with
  | .required, some m =>
    if 1 < m.minCount then
      return target ++ " should use `" ++ m.label ++ "` at least " ++
        (← numberText (some (m.minCount : Int))) ++ " times (found " ++
        (← numberText (o.observed.map Int.ofNat)) ++ ")"
    else return target ++ " should implement `" ++ m.label ++ "`"
  | .forbidden, some m => return target ++ " still contains " ++ m.label
  | .minLength, _ =>
    return target ++ " needs a more substantial implementation (at least " ++
      (← numberText r.minLength) ++ " characters, found " ++
      (← numberText (o.observed.map Int.ofNat)) ++ ")"
  | _, _ => return target ++ " failed custom validation"

def Data.orElse (a b : Data) : Data := if a.truthy then a else b

def Rule.missing (r : Rule) : RuleResult :=
  { ruleId := r.id, name := r.displayName, passed := false, reason := some .unitMissing,
    expected := .text r.appliesTo,
    message := r.missingMessage.orElse (.text (r.targetName ++
      " not found - declare a function, const or class named " ++ r.appliesTo)) }

def Rule.verdict (r : Rule) (outcomes : List CheckOutcome) : Except EvaluationError RuleResult := do
  -- -- The steps come first: one that looks at no check is an error even where all is met.
  let steps ← r.diagnostics.mapM fun s => do return (s, ← s.outcome outcomes)
  match outcomes.find? (!·.met) with
  | none => return { ruleId := r.id, name := r.displayName, passed := true }
  | some first =>
    match steps.find? fun e => !e.2.met with
    | some (s, o) => return r.failure o (.text s.message)
    | none =>
      if r.fallbackMessage.truthy then return r.failure first r.fallbackMessage
      else return r.failure first (.text (← r.defaultMessage first))

/-- The result of a rule on the text of its unit, if there is one; without a time. -/
def Rule.evaluate (r : Rule) (unit : Option String) : Evaluation RuleResult := do
  match unit with
  | none => return r.missing
  | some text => liftExcept (r.verdict (← r.runChecks text))
where
  liftExcept {α : Type} (e : Except EvaluationError α) : Evaluation α :=
    match e with
    | .ok a => pure a
    | .error e => throw e

def Rule.broken (r : Rule) (e : EvaluationError) : RuleResult :=
  { ruleId := r.id, name := r.displayName, passed := false, reason := some .internalError,
    message := .text ("Internal error while checking " ++ r.displayName ++ ": " ++ e.text) }

def Rule.brokenNotice (r : Rule) (e : EvaluationError) : Notice :=
  ⟨.warning, "Rule '" ++ r.id ++ "' raised during evaluation: " ++ e.kind ++ ": " ++ e.text⟩

/-! ## 6. Evaluators -/

structure Evaluator where
  compiled : Compiled := []
  clock : Clock := []

def Evaluator.shown (e : Evaluator) : String :=
  "RuleEvaluator(cached_regexes=" ++ Nat.repr e.compiled.length ++ ")"

def Evaluator.evaluateRule (e : Evaluator) (r : Rule) (unit : Option String) :
    RuleResult × List Notice × Evaluator :=
  let (start, clock) := e.clock.read
  let (outcome, compiled) := (r.evaluate unit).run.run e.compiled
  let (stop, clock) := clock.read
  let (result, notices) := match outcome with
    | .ok result => (result, [])
    | .error error => (r.broken error, [r.brokenNotice error])
  ({ result with time := .float (elapsed start stop) }, notices, { compiled, clock })

/-- The results of rules, one for each and in their order; `units` gives the texts of units. -/
def Evaluator.evaluate (e : Evaluator) (units : String → Option String) :
    List Rule → List RuleResult × List Notice × Evaluator
  | [] => ([], [], e)
  | r :: rs =>
    let (result, notices, e) := e.evaluateRule r (units r.appliesTo)
    let (results, more, e) := e.evaluate units rs
    (result :: results, notices ++ more, e)

end Grading
