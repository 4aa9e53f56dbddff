import Grading.Yaml.Value

/-!
# Print — documents from values

A value is written as blocks, with its keys in their order. A text is plain if it reads back as the
same text, else in single quotes, and in double quotes if it holds characters other than the printable
seven-bit ones. Long texts go on in the next line after a blank beyond the width.
-/

namespace Grading.Yaml

/-! ## 1. Pens -/

structure Pen where
  written : List Char := []
  column : Nat := 0
  /-- Whether a blank or nothing stands before. -/
  spaced : Bool := true
  /-- Whether the line holds only indentation so far. -/
  fresh : Bool := true
  deriving Repr, Inhabited

/-- The column after which a text may go on in the next line. -/
def width : Nat := 80

namespace Pen

def put (p : Pen) (s : List Char) : Pen :=
  { p with written := s.reverse ++ p.written, column := p.column + s.length }

def newline (p : Pen) : Pen :=
  { written := '\n' :: p.written, column := 0, spaced := true, fresh := true }

def indentTo (p : Pen) (indent : Nat) : Pen :=
  let p := if !p.fresh || indent < p.column || (p.column = indent && !p.spaced) then p.newline else p
  if p.column < indent then
    { p.put (List.replicate (indent - p.column) ' ') with spaced := true }
  else p

def sign (p : Pen) (s : String) (apart keepsFresh : Bool) : Pen :=
  let p := p.put (if p.spaced || !apart then s.toList else ' ' :: s.toList)
  { p with spaced := false, fresh := p.fresh && keepsFresh }

end Pen

/-! ## 2. Styles -/

inductive Style where
  | plain
  | single
  | double
  deriving DecidableEq, Repr, Inhabited

def isSimple (c : Char) : Bool := c = '\n' || (0x20 ≤ c.toNat && c.toNat ≤ 0x7e)

def holdsPair (a b : Char) : List Char → Bool
  | x :: y :: r => (x = a && y = b) || holdsPair a b (y :: r)
  | _ => false

/-- Whether a text holds a sign that a plain text must not hold: one at its beginning, a colon before
a blank or a number sign after one. -/
def holdsSign (s : List Char) : Bool :=
  let start := match s with
    | [] => false
    | c :: r =>
      "#,[]\x7b\x7d&*!|>'\"%@\x60".toList.contains c ||
        ("?:-".toList.contains c && endsToken (r.headD endMark))
  let rec inside (before : Char) : List Char → Bool
    | [] => false
    | c :: r =>
      (c = ':' && endsToken (r.headD endMark)) || (c = '#' && endsToken before) || inside c r
  let marked := "---".toList.isPrefixOf s || "...".toList.isPrefixOf s
  start || marked || (match s with
    | [] => false
    | c :: r => inside c r)

def styleOf (s : List Char) : Style :=
  if s.any (fun c => !isSimple c) || holdsPair ' ' '\n' s || holdsPair '\n' ' ' s then .double
  else if plainKind s ≠ .text || s.contains '\n' || s.head? = some ' ' || s.getLast? = some ' ' ||
      holdsSign s then .single
  else .plain

/-! ## 3. Texts -/

def runs (p : Char → Nat) (s : List Char) : List (List Char) := s.splitBy fun a b => p a = p b

def putPlain (indent : Nat) (p : Pen) : List (List Char) → Pen
  | [] => p
  | r :: rs =>
    if r = [' '] && width < p.column then
      putPlain indent { p.indentTo indent with spaced := false, fresh := false } rs
    else putPlain indent (p.put r) rs

def putSingle (indent : Nat) (isFirst : Bool) (p : Pen) : List (List Char) → Pen
  | [] => p
  | r :: rs =>
    let p :=
      if r = [' '] && width < p.column && !isFirst && !rs.isEmpty then p.indentTo indent
      else if r.head? = some '\n' then (r.foldl (fun p _ => p.newline) p.newline).indentTo indent
      else p.put (r.flatMap fun c => if c = '\'' then ['\'', '\''] else [c])
    putSingle indent false p rs

def hexUpper (width n : Nat) : List Char := (Text.hexDigits width n).map Char.toUpper

def letterEscapes : List (Nat × Char) :=
  [(0, '0'), (7, 'a'), (8, 'b'), (9, 't'), (10, 'n'), (11, 'v'), (12, 'f'), (13, 'r'), (27, 'e'),
    (34, '"'), (92, '\\'), (0x85, 'N'), (0xa0, '_'), (0x2028, 'L'), (0x2029, 'P')]

def escapeOf (c : Char) : List Char :=
  let n := c.toNat
  match letterEscapes.lookup n with
  | some l => ['\\', l]
  | none =>
    if n < 0x100 then '\\' :: 'x' :: hexUpper 2 n
    else if n < 0x10000 then '\\' :: 'u' :: hexUpper 4 n
    else '\\' :: 'U' :: hexUpper 8 n

def isEscaped (c : Char) : Bool := c = '"' || c = '\\' || c.toNat < 0x20 || 0x7e < c.toNat

/-- The characters of a text in double quotes; `pending` are not written yet. -/
def putDouble (indent : Nat) (isFirst : Bool) (pending : List Char) (p : Pen) : List Char → Pen
  | [] => p.put pending
  | c :: r =>
    let escaped := isEscaped c
    let p := if escaped then (p.put pending).put (escapeOf c) else p
    let waiting := if escaped then [] else pending
    let isOver := if escaped then width + 1 < p.column else width < p.column + waiting.length
    if !isFirst && !r.isEmpty && (c = ' ' || waiting.isEmpty) && isOver then
      let p := { (p.put (waiting ++ ['\\'])).indentTo indent with spaced := false, fresh := false }
      let next := if escaped then r.head? else some c
      let p := if next = some ' ' then p.put ['\\'] else p
      putDouble indent false (if escaped then [] else [c]) p r
    else putDouble indent false (if escaped then [] else waiting ++ [c]) p r

def putText (indent : Nat) (p : Pen) (s : List Char) : Pen :=
  match styleOf s with
  | .plain =>
    let p := if p.spaced then p else p.put [' ']
    putPlain indent { p with spaced := false, fresh := false } (runs (fun c => if c = ' ' then 1 else 0) s)
  | .single =>
    let kind (c : Char) : Nat := if c = ' ' then 1 else if c = '\n' then 2 else 0
    (putSingle indent true (p.sign "'" true false) (runs kind s)).sign "'" false false
  | .double => (putDouble indent true [] (p.sign "\"" true false) s).sign "\"" false false

/-! ## 4. Values -/

mutual
def putValue (indent : Option Nat) (inMapping : Bool) (p : Pen) : Data → Pen
  | .text s => putText ((indent.getD 0) + 2) p s.toList
  | .list xs =>
    if xs.isEmpty then p.sign "[]" true false
    else
      let inner := match indent with
        | none => 0
        | some n => if inMapping && !p.fresh then n else n + 2
      putItems inner p xs
  | .map es =>
    if es.isEmpty then p.sign "\x7b\x7d" true false
    else putEntries ((indent.map (· + 2)).getD 0) p es
  | d =>
    let p := if p.spaced then p else p.put [' ']
    { p.put d.plain.toList with spaced := false, fresh := false }

def putItems (indent : Nat) (p : Pen) : List Data → Pen
  | [] => p
  | x :: xs =>
    let p := (p.indentTo indent).sign "-" true true
    putItems indent (putValue (some indent) false p x) xs

def putEntries (indent : Nat) (p : Pen) : List (Data × Data) → Pen
  | [] => p
  | (k, v) :: es =>
    let p := putText (indent + 2) (p.indentTo indent) k.plain.toList
    let p := p.sign ":" false false
    putEntries indent (putValue (some indent) true p v) es
end

def print (d : Data) : String :=
  String.ofList ((putValue none false {} d).indentTo 0).written.reverse

end Grading.Yaml
