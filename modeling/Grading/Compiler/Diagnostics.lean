import Grading.Report.Basic
import Grading.Text.Alnum
import Grading.Text.Digit
import Grading.Text.Lines

/-!
# Diagnostics — errors in the output of a compiler

A line of a compiler's output is an error in one of two forms, `file(line,column): error code: message`
or `file:line:column - error code: message`, or some other line. Colour sequences do not count, nor
do blanks around a line, and blank lines are left out.
-/

namespace Grading

open Grading.Text

/-! ## 1. Colours -/

def escapeChar : Char := Char.ofNat 27

/-- What follows the parameters of a colour sequence, and their number. -/
def colourParameters : List Char → Nat × List Char
  | [] => (0, [])
  | c :: r =>
    if ('0' ≤ c && c ≤ '9') || c = ';' then
      let (n, rest) := colourParameters r
      (n + 1, rest)
    else (0, c :: r)

def colourLength? : List Char → Option Nat
  | c :: '[' :: r =>
    if c = escapeChar then
      match colourParameters r with
      | (n, 'm' :: _) => some (n + 3)
      | _ => none
    else none
  | _ => none

/-- The text without its colour sequences; the first `skip` characters belong to one. -/
def withoutColoursFrom (skip : Nat) : List Char → List Char
  | [] => []
  | c :: r =>
    match skip with
    | k + 1 => withoutColoursFrom k r
    | 0 =>
      match colourLength? (c :: r) with
      | some n => withoutColoursFrom (n - 1) r
      | none => c :: withoutColoursFrom 0 r

def withoutColours (s : List Char) : List Char := withoutColoursFrom 0 s

/-! ## 2. The forms of an error -/

/-- The forms of an error; they differ in how the place is written. -/
inductive DiagnosticForm where
  /-- As in `file(3,7): error`. -/
  | brackets
  /-- As in `file:3:7 - error`. -/
  | colons
  deriving DecidableEq, Repr, Inhabited

def digits? (s : List Char) : Option (List Char × List Char) :=
  match s.takeWhile isDigit with
  | [] => none
  | d :: ds => some (d :: ds, s.dropWhile isDigit)

def after? (start s : List Char) : Option (List Char) :=
  if start.isPrefixOf s then some (s.drop start.length) else none

/-- The digits of line and column at the beginning of a text, and the rest from the word `error` on. -/
def DiagnosticForm.place? (form : DiagnosticForm) (s : List Char) :
    Option (List Char × List Char × List Char) := do
  match form with
  | .brackets =>
    let (line, s) ← digits? (← after? ['('] s)
    let (column, s) ← digits? (← after? [','] s)
    let s ← after? [')', ':'] s
    return (line, column, trimLeft s)
  | .colons =>
    let (line, s) ← digits? (← after? [':'] s)
    let (column, s) ← digits? (← after? [':'] s)
    let s ← after? ['-'] (trimLeft s)
    return (line, column, trimLeft s)

structure Finding where
  file : List Char
  line : List Char
  column : List Char
  code : Option (List Char)
  message : List Char
  deriving DecidableEq, Repr, Inhabited

/-- The code and the message after the word `error`: the code is the first word, and a colon after it,
or in its place, does not count. -/
def codeAndMessage (s : List Char) : Option (List Char) × List Char :=
  let code := s.takeWhile isWordChar
  let rest := match s.dropWhile isWordChar with
    | ':' :: r => r
    | r => r
  (if code.isEmpty then none else some code, trimLeft rest)

/-- The error that a text is from the place on; `file` stands before it, last character first. -/
def DiagnosticForm.findingAt? (form : DiagnosticForm) (file s : List Char) : Option Finding := do
  let (line, column, s) ← form.place? s
  let s ← after? "error".toList s
  if (s.takeWhile isBlank).isEmpty then none
  let (code, message) := codeAndMessage (trimLeft s)
  return { file := file.reverse, line, column, code, message }

/-- The error that a text is in one form: the earliest place after at least one character decides. -/
def DiagnosticForm.find? (form : DiagnosticForm) (file : List Char) : List Char → Option Finding
  | [] => none
  | c :: r =>
    match if file.isEmpty then none else form.findingAt? file (c :: r) with
    | some f => some f
    | none => form.find? (c :: file) r

def finding? (line : List Char) : Option Finding :=
  (DiagnosticForm.find? .brackets [] line).or (DiagnosticForm.find? .colons [] line)

/-! ## 3. The output -/

def Finding.toError (f : Finding) : Except NumberTooLong CompilationError := do
  let line ← numberOf f.line
  let column ← numberOf f.column
  return { message := String.ofList (trim f.message), file := some (String.ofList (trim f.file)),
           line := some (line : Int), column := some (column : Int),
           code := f.code.map String.ofList }

structure Diagnostics where
  errors : List CompilationError := []
  other : List String := []
  deriving DecidableEq, Repr, Inhabited

def Diagnostics.append (a b : Diagnostics) : Diagnostics :=
  { errors := a.errors ++ b.errors, other := a.other ++ b.other }

def Diagnostics.ofLine (line : List Char) : Except NumberTooLong Diagnostics :=
  let line := trim (withoutColours line)
  if line.isEmpty then .ok {}
  else match finding? line with
    | some f => do return { errors := [← f.toError] }
    | none => .ok { other := [String.ofList line] }

def Diagnostics.ofLines : List (List Char) → Except NumberTooLong Diagnostics
  | [] => .ok {}
  | l :: ls => do
    let d ← Diagnostics.ofLine l
    let ds ← Diagnostics.ofLines ls
    return d.append ds

def Diagnostics.read (output : List Char) : Except NumberTooLong Diagnostics :=
  Diagnostics.ofLines (lines output)

end Grading
