import Grading.Data.Basic
import Grading.Files.Tree
import Grading.Notice

/-!
# Document — the values that files hold

What the text of a file says is up to a reader of documents, and how a value is written to a printer.
Both come from outside: nothing is known of a reader but that it gives a value, says that the text is
malformed, or fails in another way.
-/

namespace Grading.Files

inductive Unread where
  | malformed
  /-- Any failure that is not one of the notation. -/
  | fault (fault : Fault)
  deriving DecidableEq, Repr, Inhabited

/-- A reader is given the stream, so that it can meet a defect of the notation before the place at
which the stream breaks off. -/
abbrev DocumentReader := TextStream → Except Unread Data

abbrev DocumentPrinter := Data → String

inductive FileDefect where
  | malformed
  | unreadable (error : SystemError)
  | fault (fault : Fault)
  deriving DecidableEq, Repr, Inhabited

def FileDefect.ofUnread : Unread → FileDefect
  | .malformed => .malformed
  | .fault f => .fault f

def readDocument (read : DocumentReader) (tree : Tree) (path : Path) : Except FileDefect Data := do
  let stream ← (tree.stream path).mapError .unreadable
  (read stream).mapError .ofUnread

end Grading.Files
