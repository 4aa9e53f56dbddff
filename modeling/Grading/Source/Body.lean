import Grading.Source.Head
import Grading.Source.Scan

/-!
# Body — where the body of a declaration opens

Each search runs over the code characters after a head and gives the index of the brace that opens
the body.
-/

namespace Grading.Source

open Grading.Text

/-! ## 1. Functions -/

/-- After one of these a brace in a signature opens a type, not a body. -/
def typeContext : List Char := ":|&<,(".toList

structure FunctionSearch where
  /-- Open parentheses less closed ones. -/
  depth : Int := 0
  paramsClosed : Bool := false
  /-- Open braces of a type that is passed over. -/
  skip : Nat := 0
  previous : Option Char := none
  deriving DecidableEq, Repr, Inhabited

inductive Found where
  | body
  | nothing
  | on (s : FunctionSearch)

def FunctionSearch.step (s : FunctionSearch) (c : Char) : Found :=
  let next := { s with previous := some c }
  if s.skip > 0 then
    if c = '{' then .on { next with skip := s.skip + 1 }
    else if c = '}' then .on { next with skip := s.skip - 1 }
    else .on next
  else if c = '(' then .on { next with depth := s.depth + 1 }
  else if c = ')' then
    .on { next with depth := s.depth - 1, paramsClosed := s.paramsClosed || s.depth = 1 }
  else if c = '{' && s.depth = 0 then
    if s.paramsClosed && !s.previous.any typeContext.contains then .body
    else .on { next with skip := 1 }
  else if c = ';' && s.depth = 0 then .nothing
  else .on next

/-- The body brace of a function: the first after the parameters that opens no type. -/
def functionBody (s : FunctionSearch) : List (Nat × Char) → Option Nat
  | [] => none
  | (i, c) :: r =>
    if isBlank c then functionBody s r
    else match s.step c with
      | .body => some i
      | .nothing => none
      | .on s => functionBody s r

/-! ## 2. Bindings -/

/-- Words that begin a statement and cannot continue an expression. -/
def statementWords : List (List Char) :=
  ["const", "let", "var", "export", "import"].map String.toList

def statementStarts (text : List Char) (i : Nat) : Bool :=
  match i with
  | 0 => false
  | j + 1 =>
    match text.drop j with
    | b :: r =>
      !isIdentChar b && b ≠ '.' && ((dropWord? statementWords r).bind (unlessNext isWordChar)).isSome
    | [] => false

structure ValueSearch where
  /-- Open brackets of any kind less closed ones. -/
  depth : Int := 0
  /-- The first brace that opens no body for certain. -/
  fallback : Option Nat := none
  previous : Option Char := some '='
  beforePrevious : Option Char := none
  deriving DecidableEq, Repr, Inhabited

/-- Whether a brace after these characters opens the body: it follows a parameter list, an arrow or,
outside of brackets, an equals sign or a word. -/
def ValueSearch.opensBody (s : ValueSearch) : Bool :=
  s.previous = some ')' || (s.previous = some '>' && s.beforePrevious = some '=') ||
    (s.depth = 0 && (s.previous = some '=' || s.previous.any isIdentChar))

/-- The body brace of a bound value: the first that opens a body for certain before the statement
ends, or else the first of all. -/
def valueBody (text : List Char) (s : ValueSearch) : List (Nat × Char) → Option Nat
  | [] => s.fallback
  | (i, c) :: r =>
    let next := { s with previous := some c, beforePrevious := s.previous }
    if isBlank c then valueBody text s r
    -- -- These letters begin the words that begin a statement.
    else if s.depth = 0 && "celiv".toList.contains c && statementStarts text i then s.fallback
    else if c = '{' then
      if s.opensBody then some i
      else valueBody text { next with depth := s.depth + 1, fallback := s.fallback.or (some i) } r
    else if c = '(' || c = '[' then valueBody text { next with depth := s.depth + 1 } r
    else if c = ')' || c = ']' || c = '}' then valueBody text { next with depth := s.depth - 1 } r
    else if c = ';' && s.depth ≤ 0 then s.fallback
    else valueBody text next r

/-! ## 3. Classes -/

/-- The body brace of a class: the first outside of parentheses and square brackets. -/
def classBody (depth : Int) : List (Nat × Char) → Option Nat
  | [] => none
  | (i, c) :: r =>
    if c = '(' || c = '[' then classBody (depth + 1) r
    else if c = ')' || c = ']' then classBody (depth - 1) r
    else if c = '{' && depth = 0 then some i
    else if c = ';' && depth = 0 then none
    else classBody depth r

def UnitKind.body? (kind : UnitKind) (text : List Char) (stop : Nat) : Option Nat :=
  match kind with
  | .function => functionBody {} (codeChars text stop)
  | .assignment => valueBody text {} (codeChars text stop)
  | .classDecl => classBody 0 (codeChars text stop)
  | .file => none

end Grading.Source
