import Grading.Text.Utf8
import Grading.Yaml.Cursor

/-!
# Scalar — the texts of a document

A text is plain, in quotes, or a block of lines. Lines of plain and quoted texts are folded: a single
line break counts as a blank, and of several the first does not count.
-/

namespace Grading.Yaml

/-! ## 1. Folding -/

def folded (lineBreak breaks : List Char) : List Char :=
  if lineBreak ≠ ['\n'] then lineBreak ++ breaks
  else if breaks.isEmpty then [' ']
  else breaks

/-! ## 2. Plain texts -/

def isFlowSign (c : Char) : Bool := c = ',' || c = '[' || c = ']' || c = '\x7b' || c = '\x7d'

/-- The part of a plain text up to a blank, a sign that ends it, or a colon that ends a key. -/
def plainRun (flow : Bool) : List Char → List Char
  | [] => []
  | c :: r =>
    let after := r.headD endMark
    if endsToken c || (c = ':' && (endsToken after || (flow && isFlowSign after))) ||
        (flow && (isFlowSign c || c = '?')) then []
    else c :: plainRun flow r

def plainBreaks (fuel : Nat) (c : Cursor) : Option (List Char) × Cursor :=
  match fuel with
  | 0 => (some [], c)
  | fuel + 1 =>
    if c.peek = ' ' then plainBreaks fuel c.next
    else if isBreak c.peek then
      let (b, c) := c.lineBreak
      if c.atDocumentMarker then (none, c)
      else
        let (more, c) := plainBreaks fuel c
        (more.map (b ++ ·), c)
    else (some [], c)

/-- What the blanks inside a plain text stand for, whether there was a line break, and the cursor
after them. Nothing is left of them if the text ends. -/
def plainSpaces (c : Cursor) : List Char × Bool × Cursor :=
  let (spaces, c) := c.span (· = ' ')
  if isBreak c.peek then
    let (b, c) := c.lineBreak
    if c.atDocumentMarker then ([], true, c)
    else
      match plainBreaks (c.rest.length + 1) c with
      | (none, c) => ([], true, c)
      | (some breaks, c) => (folded b breaks, true, c)
  else (spaces, false, c)

def plainFrom (fuel : Nat) (flow : Bool) (indent : Int) (spaces : List Char) (broken : Bool) (c : Cursor) :
    List Char × Bool × Cursor :=
  match fuel with
  | 0 => ([], broken, c)
  | fuel + 1 =>
    if c.peek = '#' then ([], broken, c)
    else
      let run := plainRun flow c.rest
      if run.isEmpty then ([], broken, c)
      else
        let (after, broken, c) := plainSpaces (c.forward run.length)
        if after.isEmpty || c.peek = '#' || (!flow && (c.column : Int) < indent) then
          (spaces ++ run, broken, c)
        else
          let (more, broken, c) := plainFrom fuel flow indent after broken c
          (spaces ++ run ++ more, broken, c)

def plain (flow : Bool) (indent : Int) (c : Cursor) : List Char × Bool × Cursor :=
  plainFrom (c.rest.length + 1) flow (indent + 1) [] false c

/-! ## 3. Texts in quotes -/

def hexValue? (c : Char) : Option Nat :=
  if '0' ≤ c && c ≤ '9' then some (c.toNat - 48)
  else if 'a' ≤ c && c ≤ 'f' then some (c.toNat - 87)
  else if 'A' ≤ c && c ≤ 'F' then some (c.toNat - 55)
  else none

def hexNumber? (cs : List Char) : Option Nat :=
  cs.foldl (fun n c => do return 16 * (← n) + (← hexValue? c)) (some 0)

def escaped? (c : Char) : Option Char :=
  match c with
  | '0' => some (Char.ofNat 0)
  | 'a' => some (Char.ofNat 7)
  | 'b' => some (Char.ofNat 8)
  | 't' => some '\t'
  | '\t' => some '\t'
  | 'n' => some '\n'
  | 'v' => some (Char.ofNat 11)
  | 'f' => some (Char.ofNat 12)
  | 'r' => some '\r'
  | 'e' => some (Char.ofNat 27)
  | ' ' => some ' '
  | '"' => some '"'
  | '\\' => some '\\'
  | '/' => some '/'
  | 'N' => some (Char.ofNat 0x85)
  | '_' => some (Char.ofNat 0xa0)
  | 'L' => some (Char.ofNat 0x2028)
  | 'P' => some (Char.ofNat 0x2029)
  | _ => none

def escapeWidth? (c : Char) : Option Nat :=
  match c with
  | 'x' => some 2
  | 'u' => some 4
  | 'U' => some 8
  | _ => none

def quotedBreaks (fuel : Nat) (c : Cursor) : Except Defect (List Char × Cursor) :=
  match fuel with
  | 0 => .ok ([], c)
  | fuel + 1 =>
    if c.atDocumentMarker then .error .openQuote
    else
      let c := c.skip fun ch => ch = ' ' || ch = '\t'
      if isBreak c.peek then do
        let (b, c) := c.lineBreak
        let (more, c) ← quotedBreaks fuel c
        return (b ++ more, c)
      else .ok ([], c)

def quotedSpaces (c : Cursor) : Except Defect (List Char × Cursor) :=
  let (spaces, c) := c.span fun ch => ch = ' ' || ch = '\t'
  if c.peek = endMark then .error .openQuote
  else if isBreak c.peek then do
    let (b, c) := c.lineBreak
    let (breaks, c) ← quotedBreaks (c.rest.length + 1) c
    return (folded b breaks, c)
  else .ok (spaces, c)

def charOfCode (code : Nat) : Except Defect Char :=
  if 0x80000000 ≤ code then
    .error (.value ⟨"OverflowError", "Python int too large to convert to C int"⟩)
  else if 0x110000 ≤ code then
    .error (.value ⟨"ValueError", "chr() arg not in range(0x110000)"⟩)
  else if 0xd800 ≤ code && code < 0xe000 then .ok (Char.ofNat 0xfffd)
  else .ok (Char.ofNat code)

def escapeSequence (c : Cursor) : Except Defect (List Char × Cursor) :=
  match escaped? c.peek with
  | some ch => .ok ([ch], c.next)
  | none =>
    match escapeWidth? c.peek with
    | some width =>
      let digits := c.next.rest.take width
      if digits.length < width then .error .escape
      else match hexNumber? digits with
        | none => .error .escape
        | some code => do return ([← charOfCode code], c.next.forward width)
    | none =>
      if isBreak c.peek then
        let (_, c) := c.lineBreak
        quotedBreaks (c.rest.length + 1) c
      else .error .escape

def isQuotedSign (c : Char) : Bool := c = '\'' || c = '"' || c = '\\' || endsToken c

def quotedRun (fuel : Nat) (double : Bool) (c : Cursor) : Except Defect (List Char × Cursor) :=
  match fuel with
  | 0 => .ok ([], c)
  | fuel + 1 => do
    let (run, c) := c.span fun ch => !isQuotedSign ch
    let ch := c.peek
    if !double && ch = '\'' && c.peek 1 = '\'' then
      let (more, c) ← quotedRun fuel double (c.forward 2)
      return (run ++ '\'' :: more, c)
    else if (double && ch = '\'') || (!double && (ch = '"' || ch = '\\')) then
      let (more, c) ← quotedRun fuel double c.next
      return (run ++ ch :: more, c)
    else if double && ch = '\\' then
      let (cs, c) ← escapeSequence c.next
      let (more, c) ← quotedRun fuel double c
      return (run ++ cs ++ more, c)
    else return (run, c)

def quotedRest (fuel : Nat) (double : Bool) (c : Cursor) : Except Defect (List Char × Cursor) :=
  match fuel with
  | 0 => .error .openQuote
  | fuel + 1 => do
    let (run, c) ← quotedRun (c.rest.length + 1) double c
    if c.peek = (if double then '"' else '\'') then return (run, c.next)
    let (spaces, c) ← quotedSpaces c
    let (more, c) ← quotedRest fuel double c
    return (run ++ spaces ++ more, c)

def quotedText (double : Bool) (c : Cursor) : Except Defect (List Char × Cursor) :=
  quotedRest (c.rest.length + 1) double c.next

/-! ## 4. Blocks of lines -/

inductive Chomping where
  | strip
  | clip
  | keep
  deriving DecidableEq, Repr, Inhabited

def chomping? (c : Char) : Option Chomping :=
  if c = '+' then some .keep else if c = '-' then some .strip else none

def increment? (c : Char) : Option Nat :=
  if '0' ≤ c && c ≤ '9' then some (c.toNat - 48) else none

def blockHeader (c : Cursor) : Except Defect ((Chomping × Option Nat) × Cursor) := do
  let (chomping, increment, c) := match chomping? c.peek with
    | some k =>
      match increment? c.next.peek with
      | some n => (k, some n, c.forward 2)
      | none => (k, none, c.next)
    | none =>
      match increment? c.peek with
      | some n =>
        match chomping? c.next.peek with
        | some k => (k, some n, c.forward 2)
        | none => (Chomping.clip, some n, c.next)
      | none => (Chomping.clip, none, c)
  if increment = some 0 || !endsName c.peek then throw .header
  return ((chomping, increment), c)

def ignoredLine (defect : Defect) (c : Cursor) : Except Defect Cursor :=
  let c := c.skip (· = ' ')
  let c := if c.peek = '#' then c.skipLine else c
  if endsLine c.peek then .ok c.lineBreak.2 else .error defect

/-- The breaks of the empty lines that begin a block, and the widest indentation in front of them. -/
def blockIndentation (fuel width : Nat) (c : Cursor) : List Char × Nat × Cursor :=
  match fuel with
  | 0 => ([], width, c)
  | fuel + 1 =>
    if c.peek = ' ' then blockIndentation fuel (max width c.next.column) c.next
    else if isBreak c.peek then
      let (b, c) := c.lineBreak
      let (more, width, c) := blockIndentation fuel width c
      (b ++ more, width, c)
    else ([], width, c)

def skipIndent (fuel indent : Nat) (c : Cursor) : Cursor :=
  match fuel with
  | 0 => c
  | fuel + 1 => if c.column < indent && c.peek = ' ' then skipIndent fuel indent c.next else c

def blockBreaks (fuel indent : Nat) (c : Cursor) : List Char × Cursor :=
  match fuel with
  | 0 => ([], c)
  | fuel + 1 =>
    let c := skipIndent (indent + 1) indent c
    if isBreak c.peek then
      let (b, c) := c.lineBreak
      let (more, c) := blockBreaks fuel indent c
      (b ++ more, c)
    else ([], c)

def blockLines (fuel : Nat) (fold : Bool) (indent : Nat) (breaks : List Char) (c : Cursor) :
    List Char × List Char × List Char × Cursor :=
  match fuel with
  | 0 => ([], [], breaks, c)
  | fuel + 1 =>
    if c.column = indent && c.peek ≠ endMark then
      let isText (ch : Char) : Bool := ch ≠ ' ' && ch ≠ '\t'
      let leading := isText c.peek
      let (line, c) := c.span fun ch => !isBreak ch
      let (b, c) := c.lineBreak
      let (after, c) := blockBreaks (c.rest.length + 1) indent c
      if c.column = indent && c.peek ≠ endMark then
        let joint := if fold && b = ['\n'] && leading && isText c.peek then
            (if after.isEmpty then [' '] else [])
          else b
        let (more, last, tail, c) := blockLines fuel fold indent after c
        (breaks ++ line ++ joint ++ more, last, tail, c)
      else (breaks ++ line, b, after, c)
    else ([], [], breaks, c)

def block (fold : Bool) (indent : Int) (c : Cursor) : Except Defect (List Char × Cursor) := do
  let ((chomping, increment), c) ← blockHeader c.next
  let c ← ignoredLine .header c
  let least := (max (indent + 1) 1).toNat
  let (width, breaks, c) := match increment with
    | some n =>
      let width := least + n - 1
      let (breaks, c) := blockBreaks (c.rest.length + 1) width c
      (width, breaks, c)
    | none =>
      let (breaks, widest, c) := blockIndentation (c.rest.length + 1) 0 c
      (max least widest, breaks, c)
  let (text, last, tail, c) := blockLines (c.rest.length + 1) fold width breaks c
  let ending := match chomping with
    | .strip => []
    | .clip => last
    | .keep => last ++ tail
  return (text ++ ending, c)

end Grading.Yaml
