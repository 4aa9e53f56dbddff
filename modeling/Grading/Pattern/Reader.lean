import Grading.Pattern.Error
import Grading.Pattern.Width

/-!
# Reader — the characters of an expression

An expression is read from left to right, one token at a time; a token is a character or a backslash
with the character after it. Each step ahead looks at the token that comes next, so a backslash at
the end is found before anything else is said about what stands in front of it.
-/

namespace Grading.Pattern

inductive Token where
  | char (c : Char)
  | escape (c : Char)
  deriving DecidableEq, Repr, Inhabited

def Token.text : Token → String
  | .char c => String.singleton c
  | .escape c => String.ofList ['\\', c]

def Token.length : Token → Nat
  | .char _ => 1
  | .escape _ => 2

structure Progress where
  rest : List Char
  position : Nat := 0
  /-- The widths of the groups. -/
  groups : Widths := [none]
  names : List (String × Nat) := []
  /-- How many groups there were when the outermost look behind began. -/
  lookbehind : Option Nat := none
  /-- Groups that conditions ask for, with the position that is blamed. -/
  conditions : List (Nat × Nat) := []
  flags : Flags := {}

abbrev Reader := StateT Progress (Except Error)

def nextToken (rest : List Char) : Option Token :=
  match rest with
  | [] => none
  | '\\' :: c :: _ => some (.escape c)
  | c :: _ => some (.char c)

def peek : Reader (Option Token) := return nextToken (← get).rest

def fail {α : Type} (cause : Cause) (back : Nat := 0) : Reader α := do
  throw (.at cause ((← get).position - back))

def take : Reader (Option Token) := do
  let p ← get
  match nextToken p.rest with
  | none => return none
  | some t =>
    let rest := p.rest.drop t.length
    let position := p.position + t.length
    if rest = ['\\'] then throw (.at .danglingEscape position)
    set { p with rest, position }
    return some t

def takeChar (c : Char) : Reader Bool := do
  if (← peek) = some (.char c) then
    let _ ← take
    return true
  return false

def takeWhile (p : Char → Bool) : Nat → Reader (List Char)
  | 0 => return []
  | n + 1 => do
    match ← peek with
    | some (.char c) =>
      if p c then
        let _ ← take
        return c :: (← takeWhile p n)
      return []
    | _ => return []

def remaining : Reader Nat := return (← get).rest.length

/-- The text up to a terminator, which is taken too; `taken` is what was read of it. -/
def takeUntil (terminator : Char) (what : String) : Nat → String → Reader String
  | 0, _ => fail (.missing what)
  | fuel + 1, taken => do
    match ← take with
    | none =>
      if taken.isEmpty then fail (.missing what)
      else fail (.unterminatedName terminator) taken.length
    | some t =>
      if t = .char terminator then
        if taken.isEmpty then fail (.missing what) 1 else return taken
      else takeUntil terminator what fuel (taken ++ t.text)

def nameUntil (terminator : Char) (what : String) : Reader String := do
  takeUntil terminator what ((← remaining) + 1) ""

end Grading.Pattern
