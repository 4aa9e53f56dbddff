import Grading.Text.Alnum
import Grading.Text.Blank

/-!
# Scan — the code characters of a source text

The scanner tells the characters of a source text that are code from those that belong to strings,
template texts, regular expressions and comments. It reads one character at a time and looks at most
one character ahead, so whether a character is code depends only on what precedes it and on the next
character. It accepts every text: a quoted string or a regular expression that is not closed ends at
the line break, a comment or template that is not closed runs to the end.
-/

namespace Grading.Source

open Grading.Text

/-! ## 1. States -/

inductive Mode where
  /-- Plain code. -/
  | code
  /-- After `//`, up to the line feed. -/
  | lineComment
  /-- Between the two characters of an opening `/*`. -/
  | blockOpen
  /-- After `/*`, up to the closing `*/`. -/
  | block
  /-- Between the two characters of a closing `*/`. -/
  | blockClose
  /-- In a string with the given quote. -/
  | quoted (quote : Char)
  /-- After a backslash in a string. -/
  | quotedEscape (quote : Char)
  /-- In the text of a template. -/
  | template
  /-- After a backslash in the text of a template. -/
  | templateEscape
  /-- Between the two characters of an opening `${`. -/
  | templateOpen
  /-- In a regular expression, inside a character class or not. -/
  | regex (inClass : Bool)
  /-- After a backslash in a regular expression. -/
  | regexEscape (inClass : Bool)
  /-- After the closing slash of a regular expression. -/
  | regexFlags
  deriving DecidableEq, Repr, Inhabited

inductive Preceding where
  /-- Nothing yet. -/
  | start
  /-- A character that is not part of an identifier, or the delimiter of a literal. -/
  | mark (c : Char)
  /-- A character of an identifier; the text up to and with it, last character first. -/
  | word (rev : List Char)
  deriving DecidableEq, Repr, Inhabited

structure State where
  mode : Mode := .code
  /-- The depth of braces inside each open interpolation, innermost first. -/
  interpolations : List Nat := []
  preceding : Preceding := .start
  deriving DecidableEq, Repr, Inhabited

/-! ## 2. Where a slash opens a regular expression -/

def regexPreceders : List Char := "(,=:[!&|?\x7b\x7d;+-*%~^".toList

def regexKeywords : List (List Char) :=
  ["return", "typeof", "case", "throw", "yield", "await", "in", "of", "new", "delete", "void", "do",
    "else"].map String.toList

/-- The identifier at the end of a text that is given last character first; empty after a dot. -/
def wordBefore (rev : List Char) : List Char :=
  match rev.dropWhile isIdentChar with
  | '.' :: _ => []
  | _ => (rev.takeWhile isIdentChar).reverse

/-- Whether a slash after this opens a regular expression rather than a division. -/
def Preceding.admitsRegex : Preceding → Bool
  | .start => true
  | .mark c => regexPreceders.contains c
  | .word rev => regexKeywords.contains (wordBefore rev)

/-! ## 3. One character -/

/-- Records a code character; `rev` is the text before it, last character first. -/
def Preceding.after (p : Preceding) (rev : List Char) (c : Char) : Preceding :=
  if isBlank c then p
  else if isIdentChar c then .word (c :: rev)
  else .mark c

def State.plain (s : State) (rev : List Char) (c : Char) : State × Bool :=
  let preceding := s.preceding.after rev c
  match s.interpolations, c with
  | d :: ds, '{' => ({ mode := .code, interpolations := (d + 1) :: ds, preceding }, true)
  -- -- The brace that closes an interpolation belongs to the template.
  | 0 :: ds, '}' => ({ mode := .template, interpolations := ds, preceding := s.preceding }, false)
  | (d + 1) :: ds, '}' => ({ mode := .code, interpolations := d :: ds, preceding }, true)
  | ds, _ => ({ mode := .code, interpolations := ds, preceding }, true)

def State.code (s : State) (rev : List Char) (c : Char) (next : Option Char) : State × Bool :=
  if c = '/' && next = some '/' then ({ s with mode := .lineComment }, false)
  else if c = '/' && next = some '*' then ({ s with mode := .blockOpen }, false)
  else if c = '/' && next ≠ some '>' && s.preceding.admitsRegex then
    ({ s with mode := .regex false }, false)
  else if c = '\'' || c = '"' then ({ s with mode := .quoted c }, false)
  else if c = '`' then ({ s with mode := .template }, false)
  else s.plain rev c

/-- The state in code just after a literal whose last delimiter is `c`. -/
def State.afterLiteral (s : State) (c : Char) : State :=
  { s with mode := .code, preceding := .mark c }

/-- One character: the next state and whether the character is code. `rev` is the text before it,
last character first, and `next` the character after it. -/
def State.step (s : State) (rev : List Char) (c : Char) (next : Option Char) : State × Bool :=
  match s.mode with
  | .code => s.code rev c next
  | .lineComment =>
    if c = '\n' then { s with mode := .code }.code rev c next else (s, false)
  | .blockOpen => ({ s with mode := .block }, false)
  | .block =>
    if c = '*' && next = some '/' then ({ s with mode := .blockClose }, false) else (s, false)
  | .blockClose => ({ s with mode := .code }, false)
  | .quoted q =>
    if c = '\\' then ({ s with mode := .quotedEscape q }, false)
    else if c = q then (s.afterLiteral q, false)
    -- -- A string ends with its line even if it is not closed.
    else if c = '\n' then (s.afterLiteral q).code rev c next
    else (s, false)
  | .quotedEscape q => ({ s with mode := .quoted q }, false)
  | .template =>
    if c = '\\' then ({ s with mode := .templateEscape }, false)
    else if c = '`' then (s.afterLiteral '`', false)
    else if c = '$' && next = some '{' then ({ s with mode := .templateOpen }, false)
    else (s, false)
  | .templateEscape => ({ s with mode := .template }, false)
  | .templateOpen =>
    ({ mode := .code, interpolations := 0 :: s.interpolations, preceding := .mark '{' }, false)
  | .regex inClass =>
    if c = '\\' then ({ s with mode := .regexEscape inClass }, false)
    else if c = '\n' then (s.afterLiteral '/').code rev c next
    else if inClass then ({ s with mode := .regex (c ≠ ']') }, false)
    else if c = '[' then ({ s with mode := .regex true }, false)
    else if c = '/' then ({ s with mode := .regexFlags }, false)
    else (s, false)
  | .regexEscape inClass => ({ s with mode := .regex inClass }, false)
  | .regexFlags =>
    if isWordChar c then (s, false) else (s.afterLiteral '/').code rev c next

/-! ## 4. Whole texts -/

def maskFrom (s : State) (rev : List Char) : List Char → List Bool
  | [] => []
  | c :: r =>
    let (t, isCode) := s.step rev c r.head?
    isCode :: maskFrom t (c :: rev) r

def codeMask (text : List Char) : List Bool := maskFrom {} [] text

def codeFrom (s : State) (rev : List Char) (i : Nat) : List Char → List (Nat × Char)
  | [] => []
  | c :: r =>
    match s.step rev c r.head? with
    | (t, true) => (i, c) :: codeFrom t (c :: rev) (i + 1) r
    | (t, false) => codeFrom t (c :: rev) (i + 1) r

/-- The code characters of a text from index `start`, which must be a position in code. -/
def codeChars (text : List Char) (start : Nat := 0) : List (Nat × Char) :=
  codeFrom {} (text.take start).reverse start (text.drop start)

end Grading.Source
