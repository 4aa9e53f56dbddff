import Grading.Notice

/-!
# Cursor — places in a document

A cursor is a place in the text of a document, with its line and column. The line breaks of a document
are line feeds, next-line characters and the two separators of lines and paragraphs.
-/

namespace Grading.Yaml

/-! ## 1. Defects -/

inductive Defect where
  | unprintable (c : Char)
  /-- No token begins with this character here. -/
  | unexpectedChar (c : Char)
  /-- A key has no colon after it on its line. -/
  | missingColon
  /-- An entry, a key or a value cannot begin here. -/
  | misplaced
  | directive
  | anchor
  | tag
  | header
  | openQuote
  | escape
  /-- The tokens are in no order that makes sense. -/
  | order
  | unknownAlias (name : String)
  | duplicateAnchor (name : String)
  | unknownTag (name : String)
  /-- A node of another kind was needed. -/
  | nodeKind
  /-- A list or a mapping stands for a key. -/
  | keyKind
  | secondDocument
  /-- A scalar of a known kind has no value. -/
  | value (fault : Fault)
  deriving DecidableEq, Repr, Inhabited

/-! ## 2. Characters -/

def isBreak (c : Char) : Bool :=
  c = '\n' || c.toNat = 0x85 || c.toNat = 0x2028 || c.toNat = 0x2029

def endMark : Char := Char.ofNat 0

def endsLine (c : Char) : Bool := c = endMark || isBreak c

def endsName (c : Char) : Bool := c = ' ' || endsLine c

def endsToken (c : Char) : Bool := c = '\t' || endsName c

def isAllowed (c : Char) : Bool :=
  let n := c.toNat
  n = 9 || n = 10 || n = 13 || (0x20 ≤ n && n ≤ 0x7e) || n = 0x85 || (0xa0 ≤ n && n ≤ 0xfffd) ||
    0x10000 ≤ n

/-- The mark of the byte order, which takes no column. -/
def orderMark : Char := Char.ofNat 0xfeff

/-! ## 3. Cursors -/

structure Cursor where
  rest : List Char
  index : Nat := 0
  line : Nat := 0
  column : Nat := 0
  deriving DecidableEq, Repr, Inhabited

namespace Cursor

def peek (c : Cursor) (k : Nat := 0) : Char := (c.rest[k]?).getD endMark

def next (c : Cursor) : Cursor :=
  match c.rest with
  | [] => c
  | ch :: r =>
    if isBreak ch then { rest := r, index := c.index + 1, line := c.line + 1, column := 0 }
    else { c with rest := r, index := c.index + 1,
                  column := if ch = orderMark then c.column else c.column + 1 }

def forward (c : Cursor) : Nat → Cursor
  | 0 => c
  | k + 1 => c.next.forward k

def span (c : Cursor) (p : Char → Bool) : List Char × Cursor :=
  let s := c.rest.takeWhile p
  (s, c.forward s.length)

def skip (c : Cursor) (p : Char → Bool) : Cursor := (c.span p).2

def skipLine (c : Cursor) : Cursor := c.skip fun ch => !isBreak ch

/-- A line break as it stands in values, and the cursor after it; nothing if there is none. -/
def lineBreak (c : Cursor) : List Char × Cursor :=
  match c.rest with
  | [] => ([], c)
  | ch :: _ =>
    if ch = '\n' || ch.toNat = 0x85 then (['\n'], c.next)
    else if isBreak ch then ([ch], c.next)
    else ([], c)

def startsMarker (c : Cursor) (mark : List Char) : Bool :=
  mark.isPrefixOf c.rest && endsToken (c.peek mark.length)

def atDocumentMarker (c : Cursor) : Bool :=
  c.startsMarker "---".toList || c.startsMarker "...".toList

end Cursor

end Grading.Yaml
