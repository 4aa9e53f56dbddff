import Grading.Source.Scan

/-!
# Block — where a block ends

Braces are counted over code characters only, so a brace in a string, a template text, a regular
expression or a comment never delimits a block.
-/

namespace Grading.Source

/-- The index of the first closing brace at which the count of open braces, which begins at `depth`,
is zero. -/
def closeIndex (depth : Int) : List (Nat × Char) → Option Nat
  | [] => none
  | (i, c) :: r =>
    if c = '{' then closeIndex (depth + 1) r
    else if c = '}' then (if depth = 1 then some i else closeIndex (depth - 1) r)
    else closeIndex depth r

def blockEnd (text : List Char) (start : Nat) : Option Nat :=
  closeIndex 0 (codeChars text start)

end Grading.Source
