/-!
# Token — the words and signs of a command line

A command line is cut into words, operators and redirections. A word is made of parts: text, variables
and the output of other command lines; quotes keep blanks and signs in a word.
-/

namespace Grading.Shell

inductive Part where
  | text (cs : List Char)
  | quotedText (cs : List Char)
  | variable (name : List Char) (quoted : Bool)
  | output (script : List Char) (quoted : Bool)
  deriving DecidableEq, Repr, Inhabited

abbrev Word := List Part

inductive Token where
  | word (w : Word)
  | operator (s : String)
  /-- The sign of a redirection and the stream that is redirected. -/
  | redirection (stream : Nat) (sign : String)
  deriving DecidableEq, Repr, Inhabited

inductive SyntaxError where
  | openQuote
  | openBracket
  | unexpected (what : String)
  deriving DecidableEq, Repr, Inhabited

def SyntaxError.text : SyntaxError → String
  | .openQuote => "Syntax error: Unterminated quoted string"
  | .openBracket => "Syntax error: end of file unexpected (expecting \")\")"
  | .unexpected what => "Syntax error: " ++ what ++ " unexpected"

/-! ## 1. Variables -/

def isNameStart (c : Char) : Bool := c.isAlpha || c = '_'

def isNameChar (c : Char) : Bool := c.isAlphanum || c = '_'

def dollarName? : List Char → Option (List Char × List Char)
  | '\x7b' :: r =>
    match r.dropWhile (· ≠ '\x7d') with
    | _ :: rest => some (r.takeWhile (· ≠ '\x7d'), rest)
    | [] => none
  | c :: r =>
    if isNameStart c then some (c :: r.takeWhile isNameChar, r.dropWhile isNameChar)
    else if c.isDigit || "#$?@*!-".toList.contains c then some ([c], r)
    else none
  | [] => none

/-- The text up to the bracket that closes the open ones, and the rest; quotes hide brackets. -/
def untilClosed (depth : Nat) (quote : Option Char) (acc : List Char) :
    List Char → Option (List Char × List Char)
  | [] => none
  | c :: r =>
    match quote with
    | some q => untilClosed depth (if c = q then none else some q) (c :: acc) r
    | none =>
      if c = '\'' || c = '"' then untilClosed depth (some c) (c :: acc) r
      else if c = '(' then untilClosed (depth + 1) none (c :: acc) r
      else if c = ')' then
        match depth with
        | 0 => some (acc.reverse, r)
        | d + 1 => untilClosed d none (c :: acc) r
      else untilClosed depth none (c :: acc) r

def readDollar (quoted : Bool) (s : List Char) : Except SyntaxError (Part × List Char) :=
  match s with
  | '(' :: r =>
    match untilClosed 0 none [] r with
    | some (script, rest) => .ok (.output script quoted, rest)
    | none => .error .openBracket
  | s =>
    match dollarName? s with
    | some (name, rest) => .ok (.variable name quoted, rest)
    | none => .ok (if quoted then .quotedText ['$'] else .text ['$'], s)

def readBackquoted (quoted : Bool) (s : List Char) : Except SyntaxError (Part × List Char) :=
  match s.dropWhile (· ≠ '\x60') with
  | [] => .error .openQuote
  | _ :: rest => .ok (.output (s.takeWhile (· ≠ '\x60')) quoted, rest)

/-! ## 2. Words -/

/-- The parts between double quotes, and the rest after the closing one; `fuel` bounds the number of
steps. -/
def readQuoted (fuel : Nat) (s : List Char) : Except SyntaxError (List Part × List Char) :=
  match fuel with
  | 0 => .error .openQuote
  | fuel + 1 =>
    match s with
    | [] => .error .openQuote
    | '"' :: r => .ok ([], r)
    | '\\' :: c :: r => do
      let (ps, rest) ← readQuoted fuel r
      if c = '\n' then return (ps, rest)
      let kept := if "$\x60\"\\".toList.contains c then [c] else ['\\', c]
      return (.quotedText kept :: ps, rest)
    | '\x60' :: r => do
      let (p, r) ← readBackquoted true r
      let (ps, rest) ← readQuoted fuel r
      return (p :: ps, rest)
    | '$' :: r => do
      let (p, r) ← readDollar true r
      let (ps, rest) ← readQuoted fuel r
      return (p :: ps, rest)
    | c :: r => do
      let (ps, rest) ← readQuoted fuel r
      return (.quotedText [c] :: ps, rest)

def endsWord (c : Char) : Bool := " \t\n;&|()<>".toList.contains c

def readWord (fuel : Nat) (s : List Char) : Except SyntaxError (List Part × List Char) :=
  match fuel with
  | 0 => .ok ([], s)
  | fuel + 1 =>
    match s with
    | [] => .ok ([], [])
    | '\\' :: '\n' :: r => readWord fuel r
    | '\\' :: c :: r => do
      let (ps, rest) ← readWord fuel r
      return (.quotedText [c] :: ps, rest)
    | '\'' :: r => do
      match r.dropWhile (· ≠ '\'') with
      | [] => throw .openQuote
      | _ :: after =>
        let (ps, rest) ← readWord fuel after
        return (.quotedText (r.takeWhile (· ≠ '\'')) :: ps, rest)
    | '"' :: r => do
      let (inner, r) ← readQuoted (r.length + 1) r
      let (ps, rest) ← readWord fuel r
      return (.quotedText [] :: (inner ++ ps), rest)
    | '\x60' :: r => do
      let (p, r) ← readBackquoted false r
      let (ps, rest) ← readWord fuel r
      return (p :: ps, rest)
    | '$' :: r => do
      let (p, r) ← readDollar false r
      let (ps, rest) ← readWord fuel r
      return (p :: ps, rest)
    | c :: r =>
      if endsWord c then .ok ([], c :: r)
      else do
        let (ps, rest) ← readWord fuel r
        return (.text [c] :: ps, rest)

/-! ## 3. Command lines -/

def redirectionSigns : List String := [">>", ">&", ">|", "<&", ">", "<"]

def operators : List String := ["&&", "||", ";", "&", "|", "(", ")", "\n"]

def sign? (signs : List String) (s : List Char) : Option (String × List Char) :=
  (signs.find? fun t => t.toList.isPrefixOf s).map fun t => (t, s.drop t.length)

def redirection? (s : List Char) : Option (Nat × String × List Char) :=
  match s with
  | c :: r =>
    if c.isDigit then (sign? redirectionSigns r).map fun (t, rest) => (c.toNat - 48, t, rest)
    else (sign? redirectionSigns s).map fun (t, rest) => (if t.startsWith "<" then 0 else 1, t, rest)
  | [] => none

def tokens (fuel : Nat) (s : List Char) : Except SyntaxError (List Token) :=
  match fuel with
  | 0 => .ok []
  | fuel + 1 =>
    match s.dropWhile fun c => c = ' ' || c = '\t' with
    | [] => .ok []
    | '#' :: r => tokens fuel (r.dropWhile (· ≠ '\n'))
    | s =>
      match redirection? s with
      | some (stream, sign, rest) => do
        return .redirection stream sign :: (← tokens fuel rest)
      | none =>
        match sign? operators s with
        | some (t, rest) => do return .operator t :: (← tokens fuel rest)
        | none => do
          let (parts, rest) ← readWord (s.length + 1) s
          let more ← tokens fuel rest
          return if parts.isEmpty then more else .word parts :: more

end Grading.Shell
