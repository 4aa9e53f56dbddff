import Grading.Text.Alnum
import Grading.Text.Blank

/-!
# Head — the heads of declarations

A head is the keyword of a declaration, the declared name and, for a binding, all up to the equals
sign. A head is recognised in the raw text: neither the character before its keyword nor the one
after its name may be part of an identifier.
-/

namespace Grading.Source

open Grading.Text

inductive UnitKind where
  | function
  | assignment
  | classDecl
  | file
  deriving DecidableEq, Repr, Inhabited

def UnitKind.text : UnitKind → String
  | .function => "function"
  | .assignment => "assignment"
  | .classDecl => "class"
  | .file => "file"

/-! ## 1. Names -/

def isNameStart (c : Char) : Bool :=
  ('a' ≤ c && c ≤ 'z') || ('A' ≤ c && c ≤ 'Z') || c == '_' || c == '$'

/-- A name that can be declared: an identifier, possibly with one line feed at its end. -/
def isDeclarable (name : List Char) : Bool :=
  match name with
  | [] => false
  | c :: r =>
    let rest := if r.getLast? = some '\n' then r.dropLast else r
    isNameStart c && rest.all isIdentChar

/-! ## 2. Pieces of a head

Each piece takes the characters of a text that it describes and gives the rest. -/

def dropChars? : List Char → List Char → Option (List Char)
  | [], s => some s
  | _ :: _, [] => none
  | p :: ps, c :: cs => if p = c then dropChars? ps cs else none

def dropWord? (words : List (List Char)) (s : List Char) : Option (List Char) :=
  words.findSome? (dropChars? · s)

def unlessNext (p : Char → Bool) (s : List Char) : Option (List Char) :=
  match s with
  | c :: _ => if p c then none else some s
  | [] => some s

def dropBlanks? (s : List Char) : Option (List Char) :=
  match s with
  | c :: r => if isBlank c then some (r.dropWhile isBlank) else none
  | [] => none

/-- The rest after a name that no identifier character follows. -/
def dropName? (name s : List Char) : Option (List Char) :=
  (dropChars? name s).bind (unlessNext isIdentChar)

/-! ## 3. Heads -/

def functionHead? (name s : List Char) : Option (List Char) := do
  let s ← dropChars? "function".toList s
  let s ← unlessNext isWordChar s
  let s := s.dropWhile isBlank
  let s := match s with
    | '*' :: r => r.dropWhile isBlank
    | s => s
  dropName? name s

/-- The rest after an optional type: a colon and all up to an equals sign or semicolon. -/
def dropType (s : List Char) : List Char :=
  match s with
  | ':' :: r => r.dropWhile fun c => c ≠ '=' && c ≠ ';'
  | s => s

def assignmentHead? (name s : List Char) : Option (List Char) := do
  let s ← dropWord? ["const".toList, "let".toList, "var".toList] s
  let s ← dropBlanks? s
  let s ← dropName? name s
  let s := dropType (s.dropWhile isBlank)
  let s ← dropChars? ['='] s
  unlessNext (fun c => c == '=' || c == '>') s

def classHead? (name s : List Char) : Option (List Char) := do
  let s ← dropChars? "class".toList s
  let s ← dropBlanks? s
  dropName? name s

def UnitKind.head? : UnitKind → List Char → List Char → Option (List Char)
  | .function => functionHead?
  | .assignment => assignmentHead?
  | .classDecl => classHead?
  | .file => fun _ _ => none

/-! ## 4. Occurrences -/

/-- The heads in a text from index `i` on, none overlapping an earlier one: where each starts and
ends. `resume` is where the previous head ended, `before` the character before the text. -/
def headsFrom (head : List Char → Option (List Char)) (resume i : Nat) (before : Option Char) :
    List Char → List (Nat × Nat)
  | [] => []
  | c :: r =>
    if resume ≤ i && !before.any isIdentChar then
      match head (c :: r) with
      | some rest =>
        let stop := i + ((c :: r).length - rest.length)
        (i, stop) :: headsFrom head stop (i + 1) (some c) r
      | none => headsFrom head resume (i + 1) (some c) r
    else headsFrom head resume (i + 1) (some c) r

def heads (kind : UnitKind) (name text : List Char) : List (Nat × Nat) :=
  headsFrom (kind.head? name) 0 0 none text

end Grading.Source
