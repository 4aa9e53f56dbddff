import Grading.Source.Block
import Grading.Source.Body
import Grading.Text.Quoted

/-!
# Locate — the units of a source text

`locate` finds the body of a named declaration in a text that may be cut short or malformed. Function
declarations are looked for first, then bindings, then classes; of one kind the first occurrence in
code whose body opens decides.
-/

namespace Grading.Source

structure SourceUnit where
  name : String
  kind : UnitKind
  text : String
  start : Nat
  stop : Nat
  deriving DecidableEq, Repr, Inhabited

def SourceUnit.shown (u : SourceUnit) : String :=
  "SourceUnit(name=" ++ Text.quoted u.name ++ ", kind=" ++ u.kind.text ++ ", span=" ++
    Nat.repr u.start ++ "-" ++ Nat.repr u.stop ++ ", chars=" ++ Nat.repr u.text.length ++ ")"

def wholeFile : String := "*"

inductive Outcome where
  /-- The braces that open and close the body. -/
  | block (start stop : Nat)
  /-- A body opens and never closes. -/
  | unclosed
  /-- No occurrence opens a body. -/
  | absent
  deriving DecidableEq, Repr, Inhabited

/-- The first of the given heads that lies in code and opens a body. -/
def firstBody (kind : UnitKind) (text : List Char) (mask : List Bool) :
    List (Nat × Nat) → Outcome
  | [] => .absent
  | (start, stop) :: r =>
    if mask[start]? = some true then
      match kind.body? text stop with
      | none => firstBody kind text mask r
      | some brace =>
        -- -- The first body that opens decides, whether or not it closes.
        match blockEnd text brace with
        | none => .unclosed
        | some close => .block brace close
    else firstBody kind text mask r

def firstUnit (name : String) (text : List Char) (mask : List Bool) :
    List UnitKind → Option SourceUnit
  | [] => none
  | kind :: kinds =>
    match firstBody kind text mask (heads kind name.toList text) with
    | .absent => firstUnit name text mask kinds
    | .unclosed => none
    | .block brace close =>
      some { name, kind, start := brace + 1, stop := close,
             text := String.ofList ((text.drop (brace + 1)).take (close - (brace + 1))) }

def declarationKinds : List UnitKind := [.function, .assignment, .classDecl]

def locateWith (mask : List Bool) (text : List Char) (name : String) : Option SourceUnit :=
  if text.isEmpty || !isDeclarable name.toList then none
  else firstUnit name text mask declarationKinds

def locate (source name : String) : Option SourceUnit :=
  locateWith (codeMask source.toList) source.toList name

def locateAll (source : String) (names : List String) : List (String × Option SourceUnit) :=
  let text := source.toList
  -- -- One mask serves all names.
  let mask := codeMask text
  names.eraseDups.map fun name => (name, locateWith mask text name)

/-- A whole text as a unit; an empty text is none. -/
def wholeFileUnit (source : String) : Option SourceUnit :=
  if source.isEmpty then none
  else some { name := wholeFile, kind := .file, text := source, start := 0, stop := source.length }

end Grading.Source
