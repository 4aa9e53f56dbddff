import Grading.Data.Show
import Grading.Notice
import Grading.Source.Locate

/-!
# Rule — declarative checks

A rule checks the text of one unit, or of the whole file, for markers that must or must not occur,
for a least length and, in rules built by programs, for an arbitrary predicate. The steps of a rule's
diagnostics say whose message is reported first.
-/

namespace Grading

/-! ## 1. Checks -/

inductive CheckKind where
  | required
  | forbidden
  | minLength
  | predicate
  deriving DecidableEq, Repr, Inhabited

def CheckKind.text : CheckKind → String
  | .required => "required"
  | .forbidden => "forbidden"
  | .minLength => "min_length"
  | .predicate => "predicate"

def CheckKind.all : List CheckKind := [.required, .forbidden, .minLength, .predicate]

def CheckKind.ofText? (s : String) : Option CheckKind := CheckKind.all.find? (·.text = s)

/-! ## 2. Markers -/

def patternMark : String := "regex:"

def expression? (pattern : String) : Option String :=
  let cs := pattern.toList
  let mark := patternMark.toList
  if mark.isPrefixOf cs then some (String.ofList (cs.drop mark.length)) else none

structure Marker where
  first : String
  others : List String := []
  minCount : Nat := 1
  minCount_pos : 0 < minCount := by decide
  deriving DecidableEq, Repr

instance : Inhabited Marker := ⟨{ first := "" }⟩

def Marker.patterns (m : Marker) : List String := m.first :: m.others

/-- The name of a marker: its first alternative, without the sign of a regular expression. -/
def Marker.label (m : Marker) : String := (expression? m.first).getD m.first

inductive MarkerError where
  | noPattern
  | count (n : Int)
  deriving DecidableEq, Repr, Inhabited

def MarkerError.text : MarkerError → String
  | .noPattern => "Marker needs at least one pattern"
  | .count n => "Marker min_count must be >= 1, got " ++ Data.intText n

def Marker.of (patterns : List String) (minCount : Int) : Except MarkerError Marker :=
  match patterns with
  | [] => .error .noPattern
  | first :: others =>
    if h : 0 < minCount.toNat then .ok { first, others, minCount := minCount.toNat, minCount_pos := h }
    else .error (.count minCount)

/-! ## 3. Rules -/

structure DiagnosticStep where
  check : CheckKind
  message : String
  /-- The label of the marker, for checks of markers. -/
  marker : Option String := none
  deriving DecidableEq, Repr, Inhabited

abbrev Predicate := String → Except Fault Bool

/-- A check of one unit or of the whole file. Messages may be any values of a document. -/
structure Rule where
  id : String
  appliesTo : String
  name : String := ""
  required : List Marker := []
  forbidden : List Marker := []
  diagnostics : List DiagnosticStep := []
  minLength : Option Int := none
  ignoreCase : Bool := false
  missingMessage : Data := .null
  fallbackMessage : Data := .null
  predicate : Option Predicate := none
  deriving Inhabited

namespace Rule

def displayName (r : Rule) : String := if r.name.isEmpty then r.id else r.name

def isWholeFile (r : Rule) : Bool := r.appliesTo = Source.wholeFile

def targetName (r : Rule) : String := if r.isWholeFile then "The file" else r.appliesTo

end Rule

end Grading
