import Grading.Console.Markup
import Grading.Console.Wrap

/-!
# Grid — tables drawn with lines

A column is as wide as its widest cell. When there is too little room the widest columns give way
first, down to the next widest, and last of all every column does.
-/

namespace Grading.Console

namespace Grid

/-! ## 1. Widths -/

def cellText (markup : String) : List Char := withoutControls (plain markup.toList)

def textWidth (s : List Char) : Nat := ((Text.lines s).map width).foldl max 0

def columnTexts (g : Grid) (index : Nat) (c : Column) : List (List Char) :=
  cellText c.heading :: g.rows.map fun row => cellText (row.getD index "")

/-- The width of a column with its margins when there is room for `room`. -/
def measure (room : Nat) (c : Column) (texts : List (List Char)) : Nat :=
  if room = 0 then 0
  else
    match c.cells with
    | some n => min (n + 2) room
    | none => (texts.map fun s => if room ≤ 2 then room else min room (textWidth s + 2)).foldl max 0

def roundedQuotient (num den : Nat) : Nat :=
  let q := num / den
  let r := 2 * (num % den)
  if den < r || (r = den && q % 2 = 1) then q + 1 else q

/-- Takes `total` away from those widths that take part, shared evenly and at most `most` from each;
`sharers` is how many take part from here on. -/
def reduceFrom (most : List Nat) (total sharers : Nat) : List (Bool × Nat) → List Nat
  | [] => []
  | (takesPart, w) :: rest =>
    if takesPart && sharers ≠ 0 then
      let share := min (most.headD 0) (roundedQuotient total sharers)
      (w - share) :: reduceFrom most.tail (total - share) (sharers - 1) rest
    else w :: reduceFrom most.tail total sharers rest

def reduce (total : Nat) (takesPart : List Bool) (most widths : List Nat) : List Nat :=
  let takesPart := (takesPart.zip most).map fun (t, m) => t && m ≠ 0
  reduceFrom most total (takesPart.filter id).length (takesPart.zip widths)

/-- Lets the widest of the columns that may shrink give way until all fit or none is left. -/
def collapse (mayShrink : List Bool) (room : Nat) : Nat → List Nat → List Nat
  | 0, widths => widths
  | fuel + 1, widths =>
    let total := across widths
    if total ≤ room then widths
    else
      let pairs := mayShrink.zip widths
      let widest := (pairs.filterMap fun (m, w) => if m then some w else none).foldl max 0
      let second := (pairs.filterMap fun (m, w) => if m && w ≠ widest then some w else none).foldl max 0
      let difference := widest - second
      if difference = 0 then widths
      else
        let share := min (total - room) difference
        collapse mayShrink room fuel
          (reduce (total - room) (pairs.map fun (m, w) => m && w = widest) (widths.map fun _ => share)
            widths)

def widths (g : Grid) (cells : Nat) : List Nat :=
  let room := cells - (g.columns.length + 1)
  let texts := g.columns.zipIdx.map fun (c, i) => (c, g.columnTexts i c)
  let wanted := texts.map fun (c, ts) => if measure room c ts = 0 then 1 else measure room c ts
  if across wanted ≤ room then wanted
  else
    let mayShrink := g.columns.map (·.cells.isNone)
    let shrunk := if mayShrink.any id then collapse mayShrink room (across wanted + 1) wanted else wanted
    let shrunk :=
      if across shrunk ≤ room then shrunk
      else reduce (across shrunk - room) (shrunk.map fun _ => true) shrunk shrunk
    (shrunk.zip texts).map fun (w, c, ts) => measure w c ts

/-! ## 2. Drawing -/

def rule (left middle right fill : Char) (widths : List Nat) : List Char :=
  left :: (List.intercalate [middle] (widths.map fun w => List.replicate w fill) ++ [right])

def cellLines (c : Column) (w : Nat) (text : List Char) : List (List Char) :=
  if w ≤ 2 then []
  else (wrap c.justify .ellipsis (w - 2) text).map fun line => ' ' :: (fit line (w - 2) ++ [' '])

/-- The lines of a row between its borders. A heading stands at the bottom, all else at the top. -/
def rowLines (isHeading : Bool) (edge bar : Char) (columns : List (Column × Nat))
    (texts : List (List Char)) : List (List Char) :=
  let cells := (columns.zip texts).map fun ((c, w), text) => (w, cellLines c w text)
  let height := (cells.map fun c => c.2.length).foldl max 1
  let filled := cells.map fun (w, lines) =>
    let blank := List.replicate (height - lines.length) (List.replicate w ' ')
    if isHeading then blank ++ lines else lines ++ blank
  (List.range height).map fun i =>
    edge :: (List.intercalate [bar] (filled.map fun lines => lines.getD i []) ++ [edge])

def lines (g : Grid) (cells : Nat) : List (List Char) :=
  if g.columns.isEmpty then [[]]
  else
    let ws := g.widths cells
    let columns := g.columns.zip ws
    let total := across ws + g.columns.length + 1
    let title := match g.title with
      | none => []
      | some t => wrap .center .fold total (plain t.toList)
    let heading := rowLines true '┃' '┃' columns (g.columns.map fun c => cellText c.heading)
    let rows := g.rows.flatMap fun row =>
      rowLines false '│' '│' columns (g.columns.zipIdx.map fun (_, i) => cellText (row.getD i ""))
    title ++ [rule '┏' '┳' '┓' '━' ws] ++ heading ++ [rule '┡' '╇' '┩' '━' ws] ++ rows ++
      [rule '└' '┴' '┘' '─' ws]

end Grid

/-! ## 3. Printing -/

def printed (cells : Nat) (lines : List (List Char)) : String :=
  String.ofList (lines.flatMap fun line => (if cells < width line then fit line cells else line) ++ ['\n'])

def print (cells : Nat) (markup : String) : String :=
  printed cells (wrap .loose .fold cells (plain markup.toList))

def printRaw (text : String) : String :=
  "\n".intercalate ((unwrapped text.toList).map String.ofList)

def screen (cells : Nat) : Screen where
  escape s := String.ofList (escape s.toList)
  line := print cells
  table g := printed cells (g.lines cells)
  raw := printRaw

end Grading.Console
