import Grading.Files.Document
import Grading.Rule.Library
import Grading.Rule.Read

/-!
# Load — libraries from files

A library is loaded from rule files and from directories of them. The files of a directory are loaded
in the order of their paths, those of deeper directories included. The first defect of a file ends the
loading.
-/

namespace Grading

open Grading.Files

/-! ## 1. Defects -/

inductive RuleFileDefect where
  | malformed
  | unreadable (error : SystemError)
  | notMapping (kind : String)
  | noExercise
  | rulesNotList (kind : String)
  | rule (index : Nat) (defect : RuleDefect)
  | duplicate (id : String)
  deriving DecidableEq, Repr, Inhabited

inductive LoadError where
  | file (path : Path) (defect : RuleFileDefect)
  /-- A failure that is not told of as one of the file. -/
  | fault (fault : Fault)
  deriving DecidableEq, Repr, Inhabited

def RuleFileDefect.text (path : Path) : RuleFileDefect → String
  | .malformed => "Invalid YAML syntax"
  | .unreadable e => "Cannot read file: " ++ e.text path.text
  | .notMapping kind => "YAML root must be a dictionary, got " ++ kind
  | .noExercise => "Missing required 'exercise' field"
  | .rulesNotList kind => "'rules' must be a list, got " ++ kind
  | .rule index d => "Error in rule at index " ++ Nat.repr index ++ ": " ++ d.text
  | .duplicate id => "Duplicate rule id '" ++ id ++ "'"

namespace LoadError

def kind : LoadError → String
  | .file .. => "RuleLibraryError"
  | .fault f => f.kind

def text : LoadError → String
  | .file path d => path.text ++ ": " ++ d.text path
  | .fault f => f.text

end LoadError

/-! ## 2. Rule files -/

structure RuleSet where
  exercise : String
  rules : List Rule
  deriving Inhabited

/-- Reads the rules of a list from a place in it on; `seen` are the identifiers of those before. -/
def readRules (path : Path) (index : Nat) (seen : List String) : List Data → Except LoadError (List Rule)
  | [] => return []
  | d :: ds => do
    let r ← match readRule d with
      | .ok r => pure r
      | .error e =>
        throw (if e.isReported then .file path (.rule index e) else .fault ⟨e.kind, e.text⟩)
    -- -- Within one file an identifier must not come twice; across files the last one counts.
    if seen.contains r.id then throw (.file path (.duplicate r.id))
    return r :: (← readRules path (index + 1) (r.id :: seen) ds)

def RuleSet.ofData (path : Path) (d : Data) : Except LoadError (Option RuleSet) := do
  match d with
  | .null => return none
  | .map es =>
    let some exercise := fullText? (Data.field es "exercise") | throw (.file path .noExercise)
    match Data.field es "rules" with
    | .null => return none
    | .list ds => return some { exercise, rules := ← readRules path 0 [] ds }
    | d => throw (.file path (.rulesNotList d.kindName))
  | d => throw (.file path (.notMapping d.kindName))

def LoadError.ofFile (path : Path) : FileDefect → LoadError
  | .malformed => .file path .malformed
  | .unreadable e => .file path (.unreadable e)
  | .fault f => .fault f

def RuleSet.read (read : DocumentReader) (tree : Tree) (path : Path) :
    Except LoadError (Option RuleSet) := do
  RuleSet.ofData path (← (readDocument read tree path).mapError (.ofFile path))

/-! ## 3. Directories -/

def ruleFileEnds : List String := [".yaml", ".yml"]

def ruleFilesBelow (tree : Tree) (dir : Path) : List Path :=
  let found := ruleFileEnds.flatMap fun e => tree.search dir (·.endsWith e)
  found.mergeSort fun a b => a.text ≤ b.text

def ruleFiles? (tree : Tree) (path : Path) : Option (List Path) :=
  if tree.isDirectory path then some (ruleFilesBelow tree path)
  else if tree.isFile path && ruleFileEnds.contains path.suffix then some [path]
  else none

def skippedPathNotice (path : Path) : Notice :=
  ⟨.warning, "Skipping non-YAML rules path: " ++ path.text⟩

namespace Library

/-! ## 4. Loading -/

/-- Part of the loading of a library: what was logged is kept when it fails. -/
abbrev Loading := ExceptT LoadError (StateM (List Notice))

def log (notices : List Notice) : Loading Unit := modify (· ++ notices)

variable (read : DocumentReader) (tree : Tree)

def loadFile (l : Library) (path : Path) : Loading Library := do
  match RuleSet.read read tree path with
  | .error e => throw e
  | .ok none => return l
  | .ok (some s) =>
    let (l, notices) := l.add s.exercise s.rules (some path.text)
    log notices
    return l

def loadPath (l : Library) (path : Path) : Loading Library := do
  match ruleFiles? tree path with
  | some files => files.foldlM (loadFile read tree) l
  | none =>
    log [skippedPathNotice path]
    return l

def load (paths : List Path) : Except LoadError Library × List Notice :=
  (paths.foldlM (loadPath read tree) {} : Loading Library).run.run []

end Library

end Grading
