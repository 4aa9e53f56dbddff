import Grading.Text.Digit
import Grading.Yaml.Scalar

/-!
# Token — the signs of a document

A document is cut into tokens. Where a block begins and ends follows from columns, and where a key
begins is known only at its colon, so that a token for it is put in later.
-/

namespace Grading.Yaml

/-! ## 1. Tokens -/

inductive Token where
  /-- The version of the notation. -/
  | version (major : Nat)
  /-- A short form of tags. -/
  | shortTag (handle expansion : List Char)
  | otherDirective
  | documentStart
  | documentEnd
  | blockSequenceStart
  | blockMappingStart
  | blockEnd
  | flowSequenceStart
  | flowSequenceEnd
  | flowMappingStart
  | flowMappingEnd
  | blockEntry
  | flowEntry
  | key
  | value
  | alias (name : List Char)
  | anchor (name : List Char)
  | tag (handle : Option (List Char)) (suffix : List Char)
  | scalar (text : List Char) (isPlain : Bool)
  deriving DecidableEq, Repr, Inhabited

/-- A place where a key may begin, so far without a colon. -/
structure KeyPlace where
  /-- The number of tokens before it. -/
  number : Nat
  /-- Whether nothing but a key can stand there. -/
  required : Bool
  index : Nat
  line : Nat
  column : Nat
  deriving DecidableEq, Repr, Inhabited

structure Scan where
  cursor : Cursor
  /-- The tokens so far, the last one first. -/
  tokens : List Token := []
  indent : Int := -1
  indents : List Int := []
  flow : Nat := 0
  /-- At most one place for each depth of brackets. -/
  keys : List (Nat × KeyPlace) := []
  keyAllowed : Bool := true
  deriving Repr, Inhabited

namespace Scan

/-! ## 2. Keys and columns -/

def emit (s : Scan) (t : Token) : Scan := { s with tokens := t :: s.tokens }

def emitAt (s : Scan) (number : Nat) (t : Token) : Scan :=
  let later := s.tokens.length - number
  { s with tokens := s.tokens.take later ++ t :: s.tokens.drop later }

def inFlow (s : Scan) : Bool := s.flow ≠ 0

def dropKey (s : Scan) : Except Defect Scan :=
  match s.keys.lookup s.flow with
  | none => .ok s
  | some k =>
    if k.required then .error .missingColon
    else .ok { s with keys := s.keys.filter (·.1 ≠ s.flow) }

def keyLimit : Nat := 1024

def isStale (s : Scan) (k : KeyPlace) : Bool :=
  k.line ≠ s.cursor.line || keyLimit < s.cursor.index - k.index

def dropStaleKeys (s : Scan) : Except Defect Scan :=
  if s.keys.any fun (_, k) => k.required && s.isStale k then .error .missingColon
  else .ok { s with keys := s.keys.filter fun (_, k) => !s.isStale k }

def noteKey (s : Scan) : Except Defect Scan := do
  if !s.keyAllowed then return s
  let s ← s.dropKey
  let place : KeyPlace :=
    { number := s.tokens.length, required := !s.inFlow && s.indent = s.cursor.column,
      index := s.cursor.index, line := s.cursor.line, column := s.cursor.column }
  return { s with keys := (s.flow, place) :: s.keys }

def unwind (column : Int) (s : Scan) : Scan :=
  if s.inFlow then s
  else
    let rec go (indent : Int) (indents : List Int) (tokens : List Token) : Scan :=
      if column < indent then
        match indents with
        | [] => { s with indent := -1, indents := [], tokens := .blockEnd :: tokens }
        | i :: is => go i is (.blockEnd :: tokens)
      else { s with indent, indents, tokens }
    go s.indent s.indents s.tokens

def addIndent (s : Scan) (column : Nat) : Bool × Scan :=
  if s.indent < column then (true, { s with indent := column, indents := s.indent :: s.indents })
  else (false, s)

def advance (s : Scan) (k : Nat) : Scan := { s with cursor := s.cursor.forward k }

/-! ## 3. Names -/

def isNameChar (c : Char) : Bool :=
  ('0' ≤ c && c ≤ '9') || ('A' ≤ c && c ≤ 'Z') || ('a' ≤ c && c ≤ 'z') || c = '-' || c = '_'

def anchorName (c : Cursor) : Except Defect (List Char × Cursor) :=
  let (name, c) := c.next.span isNameChar
  if name.isEmpty || !(endsToken c.peek || "?:,]\x7d%@\x60".toList.contains c.peek) then .error .anchor
  else .ok (name, c)

def tagHandle (c : Cursor) : Except Defect (List Char × Cursor) :=
  if c.peek ≠ '!' then .error .tag
  else if c.peek 1 = ' ' then .ok (['!'], c.next)
  else
    let (name, after) := c.next.span isNameChar
    if after.peek = '!' then .ok ('!' :: name ++ ['!'], after.next) else .error .tag

def isTagChar (c : Char) : Bool := isNameChar c || ";/?:@&=+$,_.!~*'()[]%".toList.contains c

def percentBytes (fuel : Nat) (c : Cursor) : Except Defect (List UInt8 × Cursor) :=
  match fuel with
  | 0 => .ok ([], c)
  | fuel + 1 =>
    if c.peek ≠ '%' then .ok ([], c)
    else match hexValue? (c.peek 1), hexValue? (c.peek 2) with
      | some a, some b => do
        let (more, c) ← percentBytes fuel (c.forward 3)
        return ((16 * a + b).toUInt8 :: more, c)
      | _, _ => .error .tag

def tagTextFrom (fuel : Nat) (c : Cursor) : Except Defect (List Char × Cursor) :=
  match fuel with
  | 0 => .ok ([], c)
  | fuel + 1 =>
    if c.peek = '%' then do
      let (bytes, c) ← percentBytes (c.rest.length + 1) c
      let .ok cs := Text.decode bytes | throw .tag
      let (more, c) ← tagTextFrom fuel c
      return (cs ++ more, c)
    else if isTagChar c.peek then do
      let (more, after) ← tagTextFrom fuel c.next
      return (c.peek :: more, after)
    else .ok ([], c)

def tagText (c : Cursor) : Except Defect (List Char × Cursor) :=
  if isTagChar c.peek then tagTextFrom (c.rest.length + 1) c else .error .tag

def readTag (c : Cursor) : Except Defect (Token × Cursor) := do
  let (t, c) ← if c.peek 1 = '<' then do
      let (suffix, c) ← tagText (c.forward 2)
      if c.peek ≠ '>' then throw .tag
      pure (Token.tag none suffix, c.next)
    else if endsToken (c.peek 1) then pure (Token.tag none ['!'], c.next)
    else do
      let hasHandle := (c.next.rest.takeWhile fun ch => !endsName ch).contains '!'
      let (handle, c) ← if hasHandle then tagHandle c else pure (['!'], c.next)
      let (suffix, c) ← tagText c
      pure (Token.tag (some handle) suffix, c)
  if !endsName c.peek then throw .tag
  return (t, c)

/-! ## 4. Directives -/

def versionNumber (c : Cursor) : Except Defect (Nat × Cursor) :=
  let (ds, c) := c.span fun ch => '0' ≤ ch && ch ≤ '9'
  if ds.isEmpty then .error .directive
  else match Text.numberOf ds with
    | .ok n => .ok (n, c)
    | .error e => .error (.value ⟨"ValueError", e.text⟩)

def readDirective (c : Cursor) : Except Defect (Token × Cursor) := do
  let (name, c) := c.next.span isNameChar
  if name.isEmpty || !endsName c.peek then throw .directive
  let (t, c) ← if name = "YAML".toList then do
      let (major, c) ← versionNumber (c.skip (· = ' '))
      if c.peek ≠ '.' then throw .directive
      let (_, c) ← versionNumber c.next
      if !endsName c.peek then throw .directive
      pure (Token.version major, c)
    else if name = "TAG".toList then do
      let (handle, c) ← tagHandle (c.skip (· = ' '))
      if c.peek ≠ ' ' then throw .directive
      let (expansion, c) ← tagText (c.skip (· = ' '))
      if !endsName c.peek then throw .directive
      pure (Token.shortTag handle expansion, c)
    else pure (Token.otherDirective, c.skipLine)
  return (t, ← ignoredLine .directive c)

/-! ## 5. Steps -/

def skipBlanks (fuel : Nat) (s : Scan) : Scan :=
  match fuel with
  | 0 => s
  | fuel + 1 =>
    let c := s.cursor.skip (· = ' ')
    let c := if c.peek = '#' then c.skipLine else c
    if isBreak c.peek then
      skipBlanks fuel { s with cursor := c.lineBreak.2, keyAllowed := s.keyAllowed || !s.inFlow }
    else { s with cursor := c }

def sign (s : Scan) (t : Token) (length : Nat) (keyAllowed : Bool) : Except Defect Scan := do
  let s ← s.dropKey
  return { (s.emit t).advance length with keyAllowed }

def documentSign (s : Scan) (t : Token) : Except Defect Scan := (s.unwind (-1)).sign t 3 false

def openFlow (s : Scan) (t : Token) : Except Defect Scan := do
  let s ← s.noteKey
  return { (s.emit t).advance 1 with flow := s.flow + 1, keyAllowed := true }

def closeFlow (s : Scan) (t : Token) : Except Defect Scan := do
  let s ← s.dropKey
  return { (s.emit t).advance 1 with flow := s.flow - 1, keyAllowed := false }

def beginBlock (s : Scan) (t : Token) : Except Defect Scan :=
  if s.inFlow then .ok s
  else if !s.keyAllowed then .error .misplaced
  else
    let (begun, s) := s.addIndent s.cursor.column
    .ok (if begun then s.emit t else s)

/-- A colon: either of a key that began on this line, or of one that stands on its own. -/
def valueSign (s : Scan) : Except Defect Scan := do
  match s.keys.lookup s.flow with
  | some k =>
    let s := { s with keys := s.keys.filter (·.1 ≠ s.flow) }
    let s := s.emitAt k.number .key
    let (begun, s) := if s.inFlow then (false, s) else s.addIndent k.column
    let s := if begun then s.emitAt k.number .blockMappingStart else s
    return { (s.emit .value).advance 1 with keyAllowed := false }
  | none =>
    let s ← s.beginBlock .blockMappingStart
    s.sign .value 1 (!s.inFlow)

def content (s : Scan) (read : Cursor → Except Defect (Token × Cursor)) : Except Defect Scan := do
  let s ← s.noteKey
  let (t, cursor) ← read s.cursor
  return { s.emit t with cursor, keyAllowed := false }

def blockText (s : Scan) (fold : Bool) : Except Defect Scan := do
  let s ← s.dropKey
  let (text, cursor) ← block fold s.indent s.cursor
  return { s.emit (.scalar text false) with cursor, keyAllowed := true }

def plainText (s : Scan) : Except Defect Scan := do
  let s ← s.noteKey
  let (text, broken, cursor) := plain s.inFlow s.indent s.cursor
  return { s.emit (.scalar text true) with cursor, keyAllowed := broken }

def atPlain (s : Scan) : Bool :=
  let ch := s.cursor.peek
  let signs := "-?:,[]\x7b\x7d#&*!|>'\"%@\x60".toList
  !(endsToken ch || signs.contains ch) ||
    (!endsToken (s.cursor.peek 1) && (ch = '-' || (!s.inFlow && (ch = '?' || ch = ':'))))

def token (s : Scan) : Except Defect Scan :=
  let c := s.cursor
  let ch := c.peek
  let alone := endsToken (c.peek 1)
  if ch = '%' && c.column = 0 then do
    let s ← (s.unwind (-1)).dropKey
    let (t, cursor) ← readDirective c
    return { s.emit t with cursor, keyAllowed := false }
  else if c.column = 0 && c.startsMarker "---".toList then s.documentSign .documentStart
  else if c.column = 0 && c.startsMarker "...".toList then s.documentSign .documentEnd
  else if ch = '[' then s.openFlow .flowSequenceStart
  else if ch = '\x7b' then s.openFlow .flowMappingStart
  else if ch = ']' then s.closeFlow .flowSequenceEnd
  else if ch = '\x7d' then s.closeFlow .flowMappingEnd
  else if ch = ',' then s.sign .flowEntry 1 true
  else if ch = '-' && alone then do
    (← s.beginBlock .blockSequenceStart).sign .blockEntry 1 true
  else if ch = '?' && (s.inFlow || alone) then do
    (← s.beginBlock .blockMappingStart).sign .key 1 (!s.inFlow)
  else if ch = ':' && (s.inFlow || alone) then s.valueSign
  else if ch = '*' then s.content fun c => do
    let (name, c) ← anchorName c
    return (.alias name, c)
  else if ch = '&' then s.content fun c => do
    let (name, c) ← anchorName c
    return (.anchor name, c)
  else if ch = '!' then s.content readTag
  else if ch = '|' && !s.inFlow then s.blockText false
  else if ch = '>' && !s.inFlow then s.blockText true
  else if ch = '\'' || ch = '"' then s.content fun c => do
    let (text, c) ← quotedText (ch = '"') c
    return (.scalar text false, c)
  else if s.atPlain then s.plainText
  else .error (.unexpectedChar ch)

/-- The tokens that stay as they are: those before the first place where a key may begin. -/
def settled (s : Scan) : List Token :=
  let places := s.keys.filter fun (_, k) => !s.isStale k
  s.tokens.reverse.take (places.foldl (fun n (_, k) => min n k.number) s.tokens.length)

/-- One more token, with the ends of the blocks before it; says whether the text ends here instead. -/
def step (s : Scan) : Except Defect (Bool × Scan) := do
  let s ← (s.skipBlanks (s.cursor.rest.length + 1)).dropStaleKeys
  let s := s.unwind s.cursor.column
  if s.cursor.rest.isEmpty then return (true, ← (s.unwind (-1)).dropKey)
  else return (false, ← s.token)

end Scan

/-- The tokens of a text; of one with a defect those that are known before it shows. -/
structure Cut where
  tokens : List Token
  defect : Option Defect := none
  deriving Inhabited

def Scan.after (s : Scan) (next : Scan → Cut) : Except Defect (Bool × Scan) → Cut
  | .error d => { tokens := s.settled, defect := some d }
  | .ok (true, s) => { tokens := s.tokens.reverse }
  | .ok (false, s) => next s

def Scan.run : Nat → Scan → Cut
  | 0, s => { tokens := s.tokens.reverse }
  | fuel + 1, s => s.after (run fuel) s.step

def Cut.ofText (text : List Char) : Cut :=
  match text.find? fun c => !isAllowed c with
  | some c => { tokens := [], defect := some (.unprintable c) }
  | none =>
    let start : Cursor := { rest := text }
    let start := if start.peek = orderMark then start.next else start
    Scan.run (2 * text.length + 2) { cursor := start }

end Grading.Yaml
