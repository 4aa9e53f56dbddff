/-!
# Path — names of files

A path is a list of names, relative to the working directory or below an anchor. Repeated slashes and
single dots do not count; double dots do.
-/

namespace Grading.Files

/-- A path; `anchor` is empty for a relative one. -/
structure Path where
  anchor : String
  names : List String
  deriving DecidableEq, Repr, Inhabited

namespace Path

def pieces (s : String) : List String := (s.splitOn "/").filter fun p => p ≠ "" && p ≠ "."

/-- The path that a text writes; two slashes in front are told from one, and from more. -/
def ofText (s : String) : Path :=
  let slashes := (s.toList.takeWhile (· = '/')).length
  { anchor := if slashes = 0 then "" else if slashes = 2 then "//" else "/", names := pieces s }

def isAbsolute (p : Path) : Bool := p.anchor ≠ ""

def text (p : Path) : String :=
  let names := "/".intercalate p.names
  if p.names.isEmpty then
    if p.anchor = "" then "."
    else if p.anchor.toList.all (· = '/') then p.anchor
    else String.ofList p.anchor.toList.dropLast
  else p.anchor ++ names

def join (base p : Path) : Path :=
  if p.isAbsolute then p else { base with names := base.names ++ p.names }

def parent (p : Path) : Path := { p with names := p.names.dropLast }

def name (p : Path) : String := (p.names.getLast?).getD ""

/-- The end of a name from its last dot on, unless the dot begins or ends it. -/
def nameSuffix (name : String) : String :=
  let rev := name.toList.reverse
  let tail := rev.takeWhile (· ≠ '.')
  let before := rev.drop (tail.length + 1)
  if tail.length < rev.length && !before.isEmpty && !tail.isEmpty then
    String.ofList ('.' :: tail.reverse)
  else ""

def suffix (p : Path) : String := nameSuffix p.name

/-- Names with each double dot taken together with the name before it. -/
def collapse (names : List String) : List String :=
  names.foldl (fun done n => if n = ".." then done.dropLast else done ++ [n]) []

/-- A path as an absolute one without double dots; a relative one counts from a root. -/
def absolute (root : String) (p : Path) : Path :=
  { anchor := if p.isAbsolute then p.anchor else root, names := collapse p.names }

end Path

end Grading.Files
