/-!
# Console — what is shown on a screen

Lines and the cells of tables are markup: a text in which tags say how it is shown. How markup and
tables come out is up to the screen.
-/

namespace Grading.Console

inductive Justify where
  /-- At their beginning, without spaces after it. -/
  | loose
  | left
  | center
  | right
  deriving DecidableEq, Repr, Inhabited

structure Column where
  heading : String
  cells : Option Nat := none
  justify : Justify := .left
  deriving DecidableEq, Repr, Inhabited

/-- A table; the cells of its rows and its title are markup. -/
structure Grid where
  title : Option String := none
  columns : List Column
  rows : List (List String)
  deriving DecidableEq, Repr, Inhabited

/-- A screen, as what it makes of a text, of a line of markup, of a table and of a text without
markup. -/
structure Screen where
  /-- Markup that shows a text as it is. -/
  escape : String → String
  line : String → String
  table : Grid → String
  raw : String → String

end Grading.Console
