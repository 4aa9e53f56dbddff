import Grading.Files.Path
import Grading.Text.Lines
import Grading.Text.Quoted
import Grading.Text.Utf8

/-!
# Tree — the files below a directory

A tree holds the files and directories below the working directory. Its operations fail as an
operating system does, with a number and a text.
-/

namespace Grading.Files

open Grading.Text

/-! ## 1. Errors -/

inductive SystemError where
  | notFound
  | permission
  | exists
  | notDirectory
  | isDirectory
  deriving DecidableEq, Repr, Inhabited

def SystemError.number : SystemError → Nat
  | .notFound => 2
  | .permission => 13
  | .exists => 17
  | .notDirectory => 20
  | .isDirectory => 21

def SystemError.reason : SystemError → String
  | .notFound => "No such file or directory"
  | .permission => "Permission denied"
  | .exists => "File exists"
  | .notDirectory => "Not a directory"
  | .isDirectory => "Is a directory"

def SystemError.text (e : SystemError) (name : String) : String :=
  "[Errno " ++ Nat.repr e.number ++ "] " ++ e.reason ++ ": " ++ quoted name

/-! ## 2. Trees -/

inductive Entry where
  | file (bytes : List UInt8)
  | directory
  deriving DecidableEq, Repr, Inhabited

/-- The entries below a root, each under its names. `root` is the anchor under which absolute paths name
them; relative paths count from the working directory. -/
structure Tree where
  root : String
  entries : List (List String × Entry) := []
  /-- The names of the working directory. -/
  here : List String := []
  deriving Repr, Inhabited

namespace Tree

def entryAt (t : Tree) (names : List String) : Option Entry :=
  if names.isEmpty then some .directory else t.entries.lookup names

/-- Follows names one by one; `done` are those followed so far. -/
def walk (t : Tree) (done : List String) : List String → Except SystemError (List String)
  | [] => .ok done
  | n :: ns =>
    match t.entryAt done with
    | none => .error .notFound
    | some (.file _) => .error .notDirectory
    | some .directory =>
      if n = ".." then (if done.isEmpty then .error .notFound else walk t done.dropLast ns)
      else walk t (done ++ [n]) ns

def path (t : Tree) (s : String) : Path :=
  if t.root.toList.isPrefixOf (s.toList ++ ['/']) then
    { anchor := t.root, names := Path.pieces (String.ofList (s.toList.drop t.root.length)) }
  else .ofText s

def names (t : Tree) (p : Path) : Except SystemError (List String) :=
  if p.anchor = "" then t.walk [] (t.here ++ p.names)
  else if p.anchor = t.root then t.walk [] p.names
  else .error .notFound

def resolve (t : Tree) (p : Path) : Path := (Path.join ⟨t.root, t.here⟩ p).absolute t.root

def goTo (t : Tree) (p : Path) : Tree := { t with here := (t.resolve p).names }

def hereText (t : Tree) : String := (Path.mk t.root t.here).text

def find (t : Tree) (p : Path) : Except SystemError Entry := do
  match t.entryAt (← t.names p) with
  | some e => return e
  | none => throw .notFound

def exists? (t : Tree) (p : Path) : Bool := (t.find p).toOption.isSome

def isDirectory (t : Tree) (p : Path) : Bool := (t.find p).toOption = some .directory

def isFile (t : Tree) (p : Path) : Bool :=
  match t.find p with
  | .ok (.file _) => true
  | _ => false

def read (t : Tree) (p : Path) : Except SystemError (List UInt8) := do
  match ← t.find p with
  | .file bytes => return bytes
  | .directory => throw .isDirectory

def below (t : Tree) (dir : List String) : List (List String) :=
  (t.entries.filter fun e => dir.isPrefixOf e.1 && dir.length < e.1.length).map
    fun e => e.1.drop dir.length

def search (t : Tree) (dir : Path) (p : String → Bool) : List Path :=
  match t.names dir with
  | .error _ => []
  | .ok names =>
    ((t.below names).filter fun ns => p ((ns.getLast?).getD "")).map
      fun ns => { dir with names := dir.names ++ ns }

/-! ## 3. Changes -/

def put (t : Tree) (names : List String) (e : Entry) : Tree :=
  { t with entries := t.entries.filter (·.1 ≠ names) ++ [(names, e)] }

/-- Makes a directory and all above it; `done` is there already. A double dot goes back by one. -/
def makeDirectories (t : Tree) (done : List String) : List String → Except SystemError Tree
  | [] => .ok t
  | n :: ns =>
    if n = ".." then t.makeDirectories done.dropLast ns
    else
    let names := done ++ [n]
    match t.entryAt names with
    | some .directory => t.makeDirectories names ns
    | some (.file _) => .error (if ns.isEmpty then .exists else .notDirectory)
    | none => (t.put names .directory).makeDirectories names ns

def write (t : Tree) (p : Path) (bytes : List UInt8) : Except SystemError Tree := do
  let names ← t.names p
  match t.entryAt names.dropLast with
  | some .directory =>
    if t.entryAt names = some .directory then throw .isDirectory
    return t.put names (.file bytes)
  | some (.file _) => throw .notDirectory
  | none => throw .notFound

def ofList (root : String) (entries : List (Path × Entry)) : Tree :=
  entries.foldl (fun t (p, e) =>
    let names := Path.collapse p.names
    let above := if e = .directory then names else names.dropLast
    let t := (t.makeDirectories [] above).toOption.getD t
    if e = .directory then t else t.put names e) { root }

end Tree

/-! ## 4. Texts -/

inductive ReadError where
  | system (e : SystemError) (name : String)
  | encoding (e : Utf8Error)
  deriving DecidableEq, Repr, Inhabited

def ReadError.text : ReadError → String
  | .system e name => e.text name
  | .encoding e => e.text

/-- What an open file gives to read. The text breaks off where a block of the file is none. -/
structure TextStream where
  text : String
  error : Option Utf8Error := none
  deriving DecidableEq, Repr, Inhabited

def blockSize : Nat := 8192

def decodeLast (bytes : List UInt8) : List Char × Option Utf8Error :=
  match decode bytes with
  | .ok cs => (cs, none)
  | .error e => ([], some e)

/-- Reads blocks one after the other. What is cut short at the end of one is read with the next, and
positions of errors count from the start of what is read at once. -/
def decodeBlocks : Nat → List UInt8 → List UInt8 → List Char × Option Utf8Error
  | 0, pending, _ => decodeLast pending
  | fuel + 1, pending, bytes =>
    if bytes.isEmpty then decodeLast pending
    else
      let block := pending ++ bytes.take blockSize
      match decode block with
      | .ok cs =>
        let (more, error) := decodeBlocks fuel [] (bytes.drop blockSize)
        (cs ++ more, error)
      | .error e =>
        if e.reason = .cutShort then
          match decode (block.take e.start) with
          | .ok cs =>
            let (more, error) := decodeBlocks fuel (block.drop e.start) (bytes.drop blockSize)
            (cs ++ more, error)
          | .error e => ([], some e)
        else ([], some e)

def Tree.readText (t : Tree) (p : Path) : Except ReadError String :=
  match t.read p with
  | .error e => .error (.system e p.text)
  | .ok bytes =>
    match decode bytes with
    | .error e => .error (.encoding e)
    | .ok cs => .ok (String.ofList (plainBreaks cs))

def Tree.stream (t : Tree) (p : Path) : Except SystemError TextStream := do
  let bytes ← t.read p
  let (cs, error) := decodeBlocks (bytes.length + 1) [] bytes
  return { text := String.ofList (plainBreaks cs), error }

end Grading.Files
