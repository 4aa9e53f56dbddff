import Grading.Source.Scan

/-!
# Indexed — the scan as a loop over the indices of a text

`codeChars` follows a text by recursion and cannot leave it. Here the same scan is a loop that keeps an
index: it moves on by one, by two or past a whole literal, and looks back for a word from an index that
it has noted. The loop is written so that nothing about it is known beforehand. Every access to the text
is checked, and so is every round of the loop: an access outside of the text comes out as `none`, and so
does a round that does not lead to a greater index, after which the loop might never end.
-/

namespace Grading.Source

open Grading.Text

/-! ## 1. Access -/

def charAt (text : List Char) (i : Int) : Option Char :=
  if 0 ≤ i then text[i.toNat]? else none

def charAfter (text : List Char) (i : Nat) : Option (Option Char) :=
  if i + 1 < text.length then (charAt text (i + 1 : Nat)).map some else some none

def findFrom (word text : List Char) (start : Nat) : Option Nat :=
  (List.range text.length).find? fun i => start ≤ i && word.isPrefixOf (text.drop i)

/-! ## 2. Literals -/

def quotedEnd (text : List Char) (quote : Char) (j : Nat) : Option Nat :=
  if j < text.length then do
    let c ← charAt text j
    if c = '\\' then quotedEnd text quote (j + 2)
    else if c = quote then some (j + 1)
    else if c = '\n' then some j
    else quotedEnd text quote (j + 1)
  else some text.length
termination_by text.length - j

def skipQuoted (text : List Char) (i : Nat) : Option Nat := do
  let quote ← charAt text i
  quotedEnd text quote (i + 1)

def flagsEnd (text : List Char) (j : Nat) : Option Nat :=
  if j < text.length then do
    let c ← charAt text j
    if isWordChar c then flagsEnd text (j + 1) else some j
  else some j
termination_by text.length - j

def regexEnd (text : List Char) (inClass : Bool) (j : Nat) : Option Nat :=
  if j < text.length then do
    let c ← charAt text j
    if c = '\\' then regexEnd text inClass (j + 2)
    else if c = '\n' then some j
    else if inClass then regexEnd text (c ≠ ']') (j + 1)
    else if c = '[' then regexEnd text true (j + 1)
    else if c = '/' then flagsEnd text (j + 1)
    else regexEnd text false (j + 1)
  else some text.length
termination_by text.length - j

def skipRegex (text : List Char) (i : Nat) : Option Nat := regexEnd text false (i + 1)

/-! ## 3. Looking back -/

/-- The last index up to `i` at which no character of an identifier stands; -1 if there is none. -/
def wordStart (text : List Char) (i : Int) : Option Int :=
  if 0 ≤ i then do
    let c ← charAt text i
    if isIdentChar c then wordStart text (i - 1) else some i
  else some i
termination_by (i + 1).toNat

/-- The identifier whose last character is at index `i`; empty behind a dot. -/
def wordEndingAt (text : List Char) (i : Int) : Option (List Char) := do
  let start ← wordStart text i
  let word := (text.take (i + 1).toNat).drop (start + 1).toNat
  if 0 ≤ start then do
    let c ← charAt text start
    if c = '.' then some [] else some word
  else some word

structure Cursor where
  index : Nat
  inTemplate : Bool := false
  /-- The depth of braces inside each open interpolation, innermost first. -/
  interpolations : List Nat := []
  /-- The last thing in code that was not blank: a character or the delimiter of a literal. -/
  previous : Option Char := none
  /-- Where the last character that was yielded and not blank stands. -/
  previousIndex : Int := -1
  deriving DecidableEq, Repr, Inhabited

/-- Whether a regular expression may begin at the cursor, and the index from which a word was looked
for to tell, if one was. -/
def Cursor.admitsRegex (cur : Cursor) (text : List Char) : Option (Bool × Option Int) :=
  match cur.previous with
  | none => some (true, none)
  | some c =>
    if regexPreceders.contains c then some (true, none)
    else if !isIdentChar c then some (false, none)
    else do
      let word ← wordEndingAt text cur.previousIndex
      some (regexKeywords.contains word, some cur.previousIndex)

def Cursor.opensRegex (cur : Cursor) (text : List Char) (c : Char) (after : Option Char) :
    Option (Bool × Option Int) :=
  if c = '/' && after ≠ some '>' then cur.admitsRegex text else some (false, none)

/-! ## 4. Rounds -/

structure Round where
  yielded : Option (Nat × Char) := none
  /-- The index from which it looks back for a word. -/
  lookedBack : Option Int := none
  /-- Where the loop goes on, unless it ends in a comment that is not closed. -/
  next : Option Cursor
  deriving DecidableEq, Repr, Inhabited

def opensInterpolation (text : List Char) (i : Nat) (c : Char) : Option Bool :=
  if c = '$' then (charAfter text i).map (· = some '{') else some false

def Cursor.templateRound (cur : Cursor) (text : List Char) (c : Char) : Option Round := do
  let i := cur.index
  if c = '\\' then some { next := some { cur with index := i + 2 } }
  else if c = '`' then
    some { next := some { cur with index := i + 1, inTemplate := false, previous := some '`' } }
  else do
    let opens ← opensInterpolation text i c
    if opens then
      some { next := some { cur with
        index := i + 2, inTemplate := false, interpolations := 0 :: cur.interpolations,
        previous := some '{' } }
    else some { next := some { cur with index := i + 1 } }

def Cursor.past (cur : Cursor) (c : Char) (interpolations : List Nat) : Cursor :=
  { cur with
    index := cur.index + 1, interpolations
    previous := if isBlank c then cur.previous else some c
    previousIndex := if isBlank c then cur.previousIndex else cur.index }

/-- A round at a character in code that opens no comment and no literal: the character is yielded
unless it closes an interpolation. -/
def Cursor.plainRound (cur : Cursor) (c : Char) : Round :=
  let yielding (interpolations : List Nat) : Round :=
    { yielded := some (cur.index, c), next := some (cur.past c interpolations) }
  match cur.interpolations with
  | [] => yielding []
  | d :: ds =>
    if c = '{' then yielding ((d + 1) :: ds)
    else if c = '}' then
      if d = 0 then
        { next := some { cur with
            index := cur.index + 1, inTemplate := true, interpolations := ds } }
      else yielding ((d - 1) :: ds)
    else yielding (d :: ds)

def Cursor.literalRound (cur : Cursor) (text : List Char) (c : Char) (after : Option Char) :
    Option Round := do
  let i := cur.index
  let (opens, lookedBack) ← cur.opensRegex text c after
  if opens then do
    let j ← skipRegex text i
    some { lookedBack, next := some { cur with index := j, previous := some '/' } }
  else if c = '\'' || c = '"' then do
    let j ← skipQuoted text i
    some { lookedBack, next := some { cur with index := j, previous := some c } }
  else if c = '`' then
    some { lookedBack, next := some { cur with index := i + 1, inTemplate := true } }
  else some { cur.plainRound c with lookedBack }

def Cursor.codeRound (cur : Cursor) (text : List Char) (c : Char) : Option Round := do
  let i := cur.index
  let after ← charAfter text i
  if c = '/' && after = some '/' then
    some { next := (findFrom ['\n'] text (i + 2)).map fun e => { cur with index := e } }
  else if c = '/' && after = some '*' then
    some { next := (findFrom ['*', '/'] text (i + 2)).map fun e => { cur with index := e + 2 } }
  else cur.literalRound text c after

def Cursor.round (cur : Cursor) (text : List Char) : Option Round := do
  let c ← charAt text cur.index
  if cur.inTemplate then cur.templateRound text c else cur.codeRound text c

/-- The rounds of the loop from a cursor on, each with the cursor at which it is made; none if an access
leaves the text or a round does not move on. -/
def Cursor.rounds (cur : Cursor) (text : List Char) : Option (List (Cursor × Round)) :=
  if cur.index < text.length then do
    let round ← cur.round text
    match round.next with
    | none => some [(cur, round)]
    | some next =>
      if cur.index < next.index then do
        let later ← next.rounds text
        some ((cur, round) :: later)
      else none
  else some []
termination_by text.length - cur.index

/-- The rounds of the scan of a text from index `start`, which must be a position in code. -/
def indexedScan (text : List Char) (start : Nat) : Option (List (Cursor × Round)) :=
  ({ index := start } : Cursor).rounds text

def yields (rounds : List (Cursor × Round)) : List (Nat × Char) := rounds.filterMap (·.2.yielded)

end Grading.Source
