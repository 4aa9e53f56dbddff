import Grading.Data.Order
import Grading.Pattern.Parse
import Grading.Rule.Basic

/-!
# Read — rules from the values of documents

A rule is read from a mapping. Whatever is wrong with it is found here, so that a rule which was read
has expressions that compile and diagnostics that look at checks the rule has.
-/

namespace Grading

/-! ## 1. Defects -/

/-- What is wrong with a rule; `rule` is its identifier. -/
inductive RuleDefect where
  | notMapping (kind : String)
  | noId
  | unknownKeys (rule keys : String)
  | noTarget (rule : String)
  | badMinLength (rule : String)
  | markersNotList (rule key : String)
  | markerKeys (rule keys : String)
  | markerIncomplete (rule : String)
  | markerKind (rule kind : String)
  | markerEmpty (rule : String)
  | markerCount (rule : String)
  | markerPattern (rule : String)
  | markerExpression (rule pattern : String) (error : Pattern.Error)
  | stepsNotList (rule : String)
  | stepNotMapping (rule : String)
  | stepMessage (rule : String)
  | stepCheck (rule : String)
  | stepLength (rule : String)
  | stepMarker (rule : String) (kind : CheckKind) (label : String)
  /-- Two unknown keys cannot be put in order. -/
  | unsortableKeys (reason : String)
  /-- The label of a marker holds a list, a set or a mapping. -/
  | labelKind (kind : String)
  /-- A value that has to be written holds a number with too many digits. -/
  | numberTooLong
  deriving DecidableEq, Repr, Inhabited

def RuleDefect.kind : RuleDefect → String
  | .markerExpression _ _ e => e.kind?.getD "RuleLibraryError"
  | .unsortableKeys _ => "TypeError"
  | .labelKind _ => "TypeError"
  | .numberTooLong => "ValueError"
  | _ => "RuleLibraryError"

def RuleDefect.isReported (d : RuleDefect) : Bool := d.kind = "RuleLibraryError"

def stepKinds : List CheckKind := [.required, .forbidden, .minLength]

def RuleDefect.text : RuleDefect → String
  | .notMapping kind => "Rule must be a dictionary, got " ++ kind
  | .noId => "Rule missing required 'id' field"
  | .unknownKeys rule keys => "Rule '" ++ rule ++ "' has unknown keys: " ++ keys
  | .noTarget rule => "Rule '" ++ rule ++ "' missing required 'applies_to' field"
  | .badMinLength rule => "Rule '" ++ rule ++ "' min_length must be a non-negative integer"
  | .markersNotList rule key => "Rule '" ++ rule ++ "' '" ++ key ++ "' must be a list"
  | .markerKeys rule keys => "Rule '" ++ rule ++ "' marker has unknown keys: " ++ keys
  | .markerIncomplete rule => "Rule '" ++ rule ++ "' marker mapping needs 'any_of' or 'pattern'"
  | .markerKind rule kind =>
    "Rule '" ++ rule ++ "' marker must be a string, list or mapping, got " ++ kind
  | .markerEmpty rule => "Rule '" ++ rule ++ "' marker needs at least one pattern"
  | .markerCount rule => "Rule '" ++ rule ++ "' marker min_count must be a positive integer"
  | .markerPattern rule => "Rule '" ++ rule ++ "' marker patterns must be non-empty strings"
  | .markerExpression rule pattern e =>
    let text := e.text ((expression? pattern).getD pattern).toList
    if e.kind?.isNone then
      "Rule '" ++ rule ++ "' has invalid regex marker '" ++ pattern ++ "': " ++ text
    else text
  | .stepsNotList rule => "Rule '" ++ rule ++ "' 'diagnostics' must be a list"
  | .stepNotMapping rule => "Rule '" ++ rule ++ "' diagnostics entries must be mappings"
  | .stepMessage rule => "Rule '" ++ rule ++ "' diagnostics entry needs a 'message'"
  | .stepCheck rule =>
    "Rule '" ++ rule ++ "' diagnostics entry needs exactly one of " ++
      Text.quotedList (stepKinds.map CheckKind.text) ++ " plus 'message'"
  | .stepLength rule => "Rule '" ++ rule ++ "' has a min_length diagnostic but no min_length"
  | .stepMarker rule kind label =>
    "Rule '" ++ rule ++ "' diagnostic refers to unknown " ++ kind.text ++ " marker '" ++ label ++ "'"
  | .unsortableKeys reason => reason
  | .labelKind kind => "unhashable type: '" ++ kind ++ "'"
  | .numberTooLong => Text.tooLongToWrite

/-! ## 2. Keys -/

def written (d : Data) : Except RuleDefect String :=
  if d.isTooLong then .error .numberTooLong else .ok d.plain

def otherKeys (known : List String) (es : List (Data × Data)) : List Data :=
  (es.map (·.1)).filter fun k =>
    match k with
    | .text s => !known.contains s
    | _ => true

/-- Fails if a mapping has other keys than the given ones; `defect` takes the text of their list. -/
def checkKeys (known : List String) (es : List (Data × Data)) (defect : String → RuleDefect) :
    Except RuleDefect Unit :=
  match otherKeys known es with
  | [] => .ok ()
  | unknown =>
    match Data.sort unknown with
    | .error (a, b) => .error (.unsortableKeys (Data.unorderedText a b))
    | .ok keys => do throw (defect (← written (.list keys)))

def fullText? : Data → Option String
  | .text s => if s.isEmpty then none else some s
  | _ => none

/-! ## 3. Markers -/

def readPattern (rule : String) (d : Data) : Except RuleDefect String :=
  match fullText? d with
  | none => .error (.markerPattern rule)
  | some p =>
    match expression? p with
    | none => .ok p
    | some source =>
      match Pattern.compile source.toList with
      | .ok _ => .ok p
      | .error e => .error (.markerExpression rule p e)

def markerParts (rule : String) : Data → Except RuleDefect (Data × Data)
  | .text s => .ok (.list [.text s], .int 1)
  | .list xs => .ok (.list xs, .int 1)
  | .map es => do
    checkKeys ["any_of", "pattern", "min_count"] es (.markerKeys rule)
    let count := (Data.field? es "min_count").getD (.int 1)
    match Data.field? es "any_of", Data.field? es "pattern" with
    | some d, _ => .ok (d, count)
    | none, some d => .ok (.list [d], count)
    | none, none => .error (.markerIncomplete rule)
  | d => .error (.markerKind rule d.kindName)

/-- A marker: a text, a list of alternatives, or a mapping with either and a number. -/
def readMarker (rule : String) (d : Data) : Except RuleDefect Marker := do
  let (patterns, count) ← markerParts rule d
  match patterns, count with
  | .list (p :: ps), .int n =>
    if h : 0 < n.toNat then
      let first ← readPattern rule p
      let others ← ps.mapM (readPattern rule)
      return { first, others, minCount := n.toNat, minCount_pos := h }
    else throw (.markerCount rule)
  | .list (_ :: _), _ => throw (.markerCount rule)
  | _, _ => throw (.markerEmpty rule)

def readMarkers (rule key : String) (es : List (Data × Data)) : Except RuleDefect (List Marker) :=
  match Data.field es key with
  | .null => .ok []
  | .list xs => xs.mapM (readMarker rule)
  | _ => .error (.markersNotList rule key)

/-! ## 4. Diagnostics -/

def stepLabel : Data → Data
  | .text s => .text ((expression? s).getD s)
  | d => d

/-- The kind of the part of a label that keeps it from being looked up. A set itself can be. -/
def labelKind? : Data → Option String
  | .set _ => none
  | d => d.mutableKind?

def readLabel (rule : String) (kind : CheckKind) (markers : List Marker) (d : Data) :
    Except RuleDefect String :=
  -- -- The label is looked up before it is known to be a text.
  match labelKind? d with
  | some part => .error (.labelKind part)
  | none =>
    match stepLabel d with
    | .text s =>
      if (markers.map Marker.label).contains s then .ok s else .error (.stepMarker rule kind s)
    | label => do throw (.stepMarker rule kind (← written label))

def readStep (rule : String) (required forbidden : List Marker) (minLength : Option Int) (d : Data) :
    Except RuleDefect DiagnosticStep := do
  let .map es := d | throw (.stepNotMapping rule)
  let some message := fullText? (Data.field es "message") | throw (.stepMessage rule)
  let [kind] := stepKinds.filter fun k => (Data.field? es k.text).isSome | throw (.stepCheck rule)
  if !(otherKeys ["message", kind.text] es).isEmpty then throw (.stepCheck rule)
  else if kind = .minLength then
    if minLength.isNone then throw (.stepLength rule) else return { check := kind, message }
  else
    let markers := if kind = .required then required else forbidden
    let marker ← readLabel rule kind markers (Data.field es kind.text)
    return { check := kind, message, marker := some marker }

def readSteps (rule : String) (required forbidden : List Marker) (minLength : Option Int) (d : Data) :
    Except RuleDefect (List DiagnosticStep) :=
  if !d.truthy then .ok []
  else match d with
    | .list xs => xs.mapM (readStep rule required forbidden minLength)
    | _ => .error (.stepsNotList rule)

/-! ## 5. Rules -/

def ruleKeys : List String :=
  ["id", "name", "applies_to", "required", "forbidden", "min_length", "ignore_case",
    "missing_message", "fallback_message", "diagnostics"]

def readMinLength (rule : String) : Data → Except RuleDefect (Option Int)
  | .null => .ok none
  | .int n => if n < 0 then .error (.badMinLength rule) else .ok (some n)
  | _ => .error (.badMinLength rule)

def readName (d : Data) : Except RuleDefect String := if d.truthy then written d else .ok ""

def readRule (d : Data) : Except RuleDefect Rule := do
  let .map es := d | throw (.notMapping d.kindName)
  let some id := fullText? (Data.field es "id") | throw .noId
  -- -- All defects from here on name the rule.
  checkKeys ruleKeys es (.unknownKeys id)
  let some appliesTo := fullText? (Data.field es "applies_to") | throw (.noTarget id)
  let minLength ← readMinLength id (Data.field es "min_length")
  let required ← readMarkers id "required" es
  let forbidden ← readMarkers id "forbidden" es
  let diagnostics ← readSteps id required forbidden minLength (Data.field es "diagnostics")
  let name ← readName (Data.field es "name")
  -- -- Whether case counts, and both messages, may be any values.
  return { id, appliesTo, required, forbidden, diagnostics, minLength, name,
           ignoreCase := ((Data.field? es "ignore_case").getD (.bool false)).truthy,
           missingMessage := Data.field es "missing_message",
           fallbackMessage := Data.field es "fallback_message" }

end Grading
