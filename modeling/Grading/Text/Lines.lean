/-!
# Lines — the lines of a text

A line ends at any of the ten line breaks below; a carriage return with its line feed is one break.
The text after the last break is a line of its own only when it is not empty.
-/

namespace Grading.Text

def isLineBreak (c : Char) : Bool :=
  let n := c.toNat
  (10 ≤ n && n ≤ 13) || (28 ≤ n && n ≤ 30) || n == 0x85 || n == 0x2028 || n == 0x2029

/-- The lines of a text; `line` holds the current line, last character first. -/
def linesFrom (line : List Char) : List Char → List (List Char)
  | [] => if line.isEmpty then [] else [line.reverse]
  | '\r' :: '\n' :: r => line.reverse :: linesFrom [] r
  | c :: r => if isLineBreak c then line.reverse :: linesFrom [] r else linesFrom (c :: line) r

def lines (s : List Char) : List (List Char) := linesFrom [] s

def splitAt (sep : Char) : List Char → List (List Char)
  | [] => [[]]
  | c :: r =>
    if c = sep then [] :: splitAt sep r
    else match splitAt sep r with
      | [] => [[c]]
      | p :: ps => (c :: p) :: ps

/-- Line feeds in place of carriage returns and of carriage returns with line feeds. -/
def plainBreaks : List Char → List Char
  | [] => []
  | '\r' :: '\n' :: r => '\n' :: plainBreaks r
  | '\r' :: r => '\n' :: plainBreaks r
  | c :: r => c :: plainBreaks r

end Grading.Text
