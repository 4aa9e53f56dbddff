import Grading.Files.Document
import Grading.Text.Case

/-!
# Scaffold — rule files to begin with

A new rule file has one rule for each unit: it forbids the usual placeholder and leaves the markers
that are required to the author.
-/

namespace Grading

def todo : String := "TODO"

def scaffoldRule (unit : String) : Data :=
  .object [("id", .text (String.ofList (Text.lower unit.toList) ++ "-implementation")),
    ("name", .text (unit ++ " implementation")), ("applies_to", .text unit), ("required", .list []),
    ("forbidden", .list [.text todo]),
    ("diagnostics", .list [.object [("forbidden", .text todo),
      ("message", .text (unit ++ " still contains TODO comments"))]])]

def scaffold (exercise : String) (units : List String) : Data :=
  .object [("exercise", .text exercise), ("rules", .list (units.map scaffoldRule))]

def scaffoldFile (print : Files.DocumentPrinter) (exercise : String) (units : List String) : String :=
  print (scaffold exercise units)

end Grading
