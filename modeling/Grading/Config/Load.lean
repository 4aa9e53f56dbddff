import Grading.Config.Basic
import Grading.Config.Issue
import Grading.Files.Document

/-!
# Load — configurations from files

The value of a configuration file is a mapping, or nothing at all. Whether its entries make a
configuration is up to a validator.
-/

namespace Grading

open Grading.Files

inductive Invalid where
  | issues (issues : List Issue)
  /-- Any failure that is not one of the entries. -/
  | fault (fault : Fault)
  deriving DecidableEq, Repr, Inhabited

/-- What makes a configuration of the entries of a mapping; the path is that of the directory of its
file, which counts in the place of an entry of its own. -/
abbrev ConfigValidator := Path → List (Data × Data) → Except Invalid Config

inductive ConfigError where
  | malformed (file : Path)
  | unreadable (file : Path) (error : SystemError)
  | notMapping (kind : String)
  | invalid (file : Path) (issues : List Issue)
  /-- A failure that is not told of as one of the configuration. -/
  | fault (fault : Fault)
  deriving DecidableEq, Repr, Inhabited

namespace ConfigError

def kind : ConfigError → String
  | .fault f => f.kind
  | _ => "ConfigError"

/-- The text of an error. Of a defect of the notation and of issues nothing more is told. -/
def text : ConfigError → String
  | .malformed file => "Invalid YAML in " ++ file.text
  | .unreadable file e => "Cannot read config " ++ file.text ++ ": " ++ e.text file.text
  | .notMapping kind => "Config root must be a mapping, got " ++ kind
  | .invalid file _ => "Invalid config " ++ file.text
  | .fault f => f.text

def ofFile (file : Path) : FileDefect → ConfigError
  | .malformed => .malformed file
  | .unreadable e => .unreadable file e
  | .fault f => .fault f

def ofInvalid (file : Path) : Invalid → ConfigError
  | .issues issues => .invalid file issues
  | .fault f => .fault f

end ConfigError

namespace Config

variable (read : DocumentReader) (validate : ConfigValidator) (tree : Tree) (file : Path)

def entriesOf : Data → Except ConfigError (List (Data × Data))
  | .null => .ok []
  | .map es => .ok es
  | d => .error (.notMapping d.kindName)

def ofData (d : Data) : Except ConfigError Config := do
  let es ← entriesOf d
  (validate (tree.resolve file).parent es).mapError (.ofInvalid file)

def load : Except ConfigError Config := do
  ofData validate tree file (← (readDocument read tree file).mapError (.ofFile file))

end Config

end Grading
