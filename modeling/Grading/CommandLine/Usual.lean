import Grading.CommandLine.Command
import Grading.Config.Validate
import Grading.Console.Grid
import Grading.Shell.Session
import Grading.Yaml.Print
import Grading.Yaml.Reader

/-!
# Usual — the host that the command line runs on
-/

namespace Grading.CommandLine

def usualCells : Nat := 1000

def usualHost : Host where
  read := Yaml.reader
  print := Yaml.print
  validate := Config.validate
  launch := Shell.launcher
  screen := Console.screen usualCells

end Grading.CommandLine
