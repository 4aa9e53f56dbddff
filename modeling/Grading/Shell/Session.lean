import Grading.Compiler.Command
import Grading.Shell.Script
import Grading.Shell.Tool

/-!
# Session — running command lines

A session holds the input, what was printed, variables and files. It ends early when a command says
so. `launcher` runs commands this way, so that what a command does is a function of its input.
-/

namespace Grading.Shell

open Grading.Files Grading.Text

/-! ## 1. Sessions -/

inductive Sink where
  | stdout
  | stderr
  /-- To the next command of a pipeline. -/
  | next
  | nowhere
  | file (path : Path)
  deriving DecidableEq, Repr, Inhabited

structure Outputs where
  one : Sink := .stdout
  two : Sink := .stderr
  deriving DecidableEq, Repr, Inhabited

structure Session where
  files : Tree
  name : String
  parameters : List String := []
  bindings : List (List Char × List Char) := []
  input : Bytes := []
  stdout : Bytes := []
  stderr : Bytes := []
  /-- What goes to the next command of the pipeline. -/
  next : Bytes := []
  status : Nat := 0
  /-- Microseconds since the start. -/
  elapsed : Nat := 0
  /-- The code with which the session ended; negative for a signal. -/
  ended : Option Int := none
  deriving Inhabited

def processNumber : Nat := 4711

namespace Session

def write (s : Session) (sink : Sink) (bytes : Bytes) : Session :=
  match sink with
  | .stdout => { s with stdout := s.stdout ++ bytes }
  | .stderr => { s with stderr := s.stderr ++ bytes }
  | .next => { s with next := s.next ++ bytes }
  | .nowhere => s
  | .file path =>
    let old := (s.files.read path).toOption.getD []
    { s with files := (s.files.write path (old ++ bytes)).toOption.getD s.files }

def apply (s : Session) (out : Outputs) (e : Effect) : Session :=
  let s := (s.write out.one e.stdout).write out.two e.stderr
  { s with status := e.status, input := e.rest, elapsed := s.elapsed + e.delay }

def complain (s : Session) (out : Outputs) (text : String) (status : Nat) : Session :=
  { s.write out.two (encode (s.name ++ ": 1: " ++ text ++ "\n")) with status }

def value (s : Session) (name : List Char) : List Char :=
  match name with
  | ['#'] => (Nat.repr s.parameters.length).toList
  | ['?'] => (Nat.repr s.status).toList
  | ['$'] => (Nat.repr processNumber).toList
  | ['@'] => (" ".intercalate s.parameters).toList
  | ['*'] => (" ".intercalate s.parameters).toList
  | ['0'] => s.name.toList
  | [c] =>
    if c.isDigit then ((s.parameters[c.toNat - 49]?).getD "").toList
    else (s.bindings.lookup name).getD []
  | name => (s.bindings.lookup name).getD []

end Session

/-! ## 2. Words -/

/-- A word in the making: finished fields, and the last one unless nothing of it is there. -/
structure Fields where
  done : List (List Char) := []
  last : Option (List Char) := none

def Fields.add (f : Fields) (cs : List Char) : Fields := { f with last := some (f.last.getD [] ++ cs) }

def Fields.cut (f : Fields) : Fields := { done := f.done ++ f.last.toList, last := none }

def Fields.addSplit (f : Fields) (cs : List Char) : Fields :=
  cs.foldl (fun f c => if c = ' ' || c = '\t' || c = '\n' then f.cut else f.add [c]) f

def Fields.toList (f : Fields) : List (List Char) := f.done ++ f.last.toList

def dropNewlines (cs : List Char) : List Char := (cs.reverse.dropWhile (· = '\n')).reverse

def Part.kept : Part → Part
  | .text cs => .quotedText cs
  | .quotedText cs => .quotedText cs
  | .variable name _ => .variable name true
  | .output script _ => .output script true

def assignment? (w : Word) : Option (List Char × Word) :=
  let bare := w.takeWhile fun p => match p with
    | .text _ => true
    | _ => false
  let chars := bare.flatMap fun p => match p with
    | .text cs => cs
    | _ => []
  let name := chars.takeWhile (· ≠ '=')
  match name with
  | [] => none
  | c :: _ =>
    if name.length < chars.length && isNameStart c && name.all isNameChar then
      some (name, w.drop (name.length + 1))
    else none

/-! ## 3. Signals -/

def signal (s : String) : Nat :=
  match s with
  | "HUP" => 1
  | "INT" => 2
  | "QUIT" => 3
  | "ABRT" => 6
  | "KILL" => 9
  | "USR1" => 10
  | "SEGV" => 11
  | "USR2" => 12
  | "PIPE" => 13
  | "ALRM" => 14
  | "TERM" => 15
  | s => (argumentInt s).toNat

def killed? (args : List String) : Option Nat :=
  let me := Nat.repr processNumber
  match args with
  | [p] => if p = me then some 15 else none
  | ["-s", s, p] => if p = me then some (signal s) else none
  | [s, p] => if p = me && s.startsWith "-" then some (signal (String.ofList (s.toList.drop 1))) else none
  | _ => none

/-! ## 4. Commands -/

def programName (s : String) : String :=
  match ["/bin/", "/usr/bin/"].find? fun d => s.startsWith d with
  | some d => String.ofList (s.toList.drop d.length)
  | none => s

def redirect (s : Session) (out : Outputs) (r : Redirection) (target : String) :
    Except Session (Session × Outputs) :=
  let set (sink : Sink) : Outputs := if r.stream = 2 then { out with two := sink } else { out with one := sink }
  if r.sign = ">&" then
    match target with
    | "1" => .ok (s, set out.one)
    | "2" => .ok (s, set out.two)
    | _ => .error (s.complain out ("Syntax error: Bad fd number") 2)
  else if r.sign = "<" then
    if target = "/dev/null" then .ok ({ s with input := [] }, out)
    else if target = "/dev/stdin" then .ok (s, out)
    else match s.files.read (s.files.path target) with
      | .ok bytes => .ok ({ s with input := bytes }, out)
      | .error .notFound => .error (s.complain out ("cannot open " ++ target ++ ": No such file") 2)
      | .error e => .error (s.complain out ("cannot open " ++ target ++ ": " ++ e.reason) 2)
  else if target = "/dev/null" then .ok (s, set .nowhere)
  else if target = "/dev/stderr" then .ok (s, set out.two)
  else if target = "/dev/stdout" then .ok (s, set out.one)
  else
    let path := s.files.path target
    let old := if r.sign = ">>" then (s.files.read path).toOption.getD [] else []
    match s.files.write path old with
    | .ok files => .ok ({ s with files }, set (.file path))
    | .error .isDirectory => .error (s.complain out ("cannot create " ++ target ++ ": Is a directory") 2)
    | .error _ => .error (s.complain out ("cannot create " ++ target ++ ": Directory nonexistent") 2)

mutual
def expand (fuel : Nat) (s : Session) (w : Word) (f : Fields) : Fields × Session :=
  match fuel with
  | 0 => (f, s)
  | fuel + 1 =>
    match w with
    | [] => (f, s)
    | .text cs :: r => expand fuel s r (f.add cs)
    | .quotedText cs :: r => expand fuel s r (f.add cs)
    | .variable ['@'] true :: r =>
      let f := match s.parameters with
        | [] => f
        | p :: ps => ps.foldl (fun f p => f.cut.add p.toList) (f.add p.toList)
      expand fuel s r f
    | .variable name quoted :: r =>
      let v := s.value name
      expand fuel s r (if quoted then f.add v else f.addSplit v)
    | .output script quoted :: r =>
      let inner := evaluate fuel { s with stdout := [], stderr := [], next := [] } {} script
      let v := dropNewlines (decodeLossy inner.stdout)
      let s := { s with stderr := s.stderr ++ inner.stderr, status := inner.status, input := inner.input,
                        elapsed := inner.elapsed, files := inner.files }
      expand fuel s r (if quoted then f.add v else f.addSplit v)

def expandAll (fuel : Nat) (s : Session) (ws : List Word) : List String × Session :=
  match fuel with
  | 0 => ([], s)
  | fuel + 1 =>
    match ws with
    | [] => ([], s)
    | w :: ws =>
      let (f, s) := expand fuel s w {}
      let (more, s) := expandAll fuel s ws
      (f.toList.map String.ofList ++ more, s)

def redirectAll (fuel : Nat) (s : Session) (out : Outputs) (rs : List Redirection) :
    Except Session (Session × Outputs) :=
  match fuel with
  | 0 => .ok (s, out)
  | fuel + 1 =>
    match rs with
    | [] => .ok (s, out)
    | r :: rs =>
      let (target, s) := expandAll fuel s [r.target]
      match redirect s out r (" ".intercalate target) with
      | .error s => .error s
      | .ok (s, out) => redirectAll fuel s out rs

def call (fuel : Nat) (s : Session) (out : Outputs) (name : String) (args : List String) : Session :=
  match fuel with
  | 0 => s
  | fuel + 1 =>
    match name with
    | ":" => { s with status := 0 }
    | "exit" =>
      match args with
      | [] => { s with ended := some s.status }
      | n :: _ =>
        if n ≠ "" && n.toList.all Char.isDigit then
          let code := (argumentInt n).toNat % 256
          { s with status := code, ended := some code }
        else { s.complain out ("exit: Illegal number: " ++ n) 2 with ended := some 2 }
    | "exec" =>
      match args with
      | [] => s
      | name :: args =>
        let s := call fuel s out name args
        { s with ended := some (s.ended.getD s.status) }
    | "echo" => s.apply out { echo true args with rest := s.input }
    | "kill" =>
      match killed? args with
      | some 0 => { s with status := 0 }
      | some n => { s with ended := some (-(n : Int)) }
      | none => s.complain out "kill: No such process" 1
    | "pwd" => s.apply out { stdout := encode (s.files.hereText ++ "\n"), rest := s.input }
    | name =>
      match programName name, args with
      | "sh", "-c" :: script :: r =>
        let inner := evaluate fuel
          { s with name := r.headD "sh", parameters := r.drop 1, bindings := [] } out script.toList
        let status := match inner.ended with
          | some code => if code < 0 then 128 + code.natAbs else code.toNat
          | none => inner.status
        { inner with name := s.name, parameters := s.parameters, bindings := s.bindings, status,
                     ended := none }
      | program, args =>
        match tool? program s.files s.input args with
        | some e => s.apply out e
        | none =>
          if name.contains '/' then
            if s.files.exists? (s.files.path name) then
              s.complain out (name ++ ": Permission denied") 126
            else s.complain out (name ++ ": not found") 127
          else s.complain out (name ++ ": not found") 127

def run (fuel : Nat) (s : Session) (out : Outputs) (script : Script) : Session :=
  match fuel with
  | 0 => s
  | fuel + 1 =>
    if s.ended.isSome then s
    else match script with
    | .empty => s
    | .sequence a b => run fuel (run fuel s out a) out b
    | .ifOk a b =>
      let s := run fuel s out a
      if s.status = 0 then run fuel s out b else s
    | .ifFailed a b =>
      let s := run fuel s out a
      if s.status = 0 then s else run fuel s out b
    | .negation a =>
      let s := run fuel s out a
      { s with status := if s.status = 0 then 1 else 0 }
    | .pipe a b =>
      let left := runApart fuel { s with next := [] } { out with one := .next } a
      let right := runApart fuel { left with input := left.next, next := s.next, status := s.status } out b
      { right with input := left.input }
    | .group apart body redirections =>
      match redirectAll fuel s out redirections with
      | .error s => s
      | .ok (t, inner) =>
        let done := if apart then runApart fuel t inner body else run fuel t inner body
        if redirections.any (·.stream = 0) then { done with input := s.input } else done
    | .command words redirections =>
      let sets := (words.map assignment?).takeWhile Option.isSome
      let rest := words.drop sets.length
      let s := if rest.isEmpty then { s with status := 0 } else s
      let s := sets.foldl (fun s a =>
        match a with
        | none => s
        | some (name, w) =>
          let (f, s) := expand fuel s (w.map Part.kept) {}
          let v := f.toList.flatten
          { s with bindings := (name, v) :: s.bindings }) s
      let (fields, s) := expandAll fuel s rest
      match redirectAll fuel s out redirections with
      | .error s => s
      | .ok (t, inner) =>
        match fields with
        | [] => { t with input := s.input }
        | name :: args =>
          let done := call fuel t inner name args
          if redirections.any (·.stream = 0) then { done with input := s.input } else done

/-- Runs a script in a session of its own, whose end is not the end of this one. -/
def runApart (fuel : Nat) (s : Session) (out : Outputs) (script : Script) : Session :=
  match fuel with
  | 0 => s
  | fuel + 1 =>
    let t := run fuel s out script
    let status := match t.ended with
      | some code => if code < 0 then 128 + code.natAbs else code.toNat
      | none => t.status
    let ended := match t.ended with
      | some code => if code < 0 then some code else none
      | none => none
    { t with bindings := s.bindings, status, ended }

def evaluate (fuel : Nat) (s : Session) (out : Outputs) (text : List Char) : Session :=
  match fuel with
  | 0 => s
  | fuel + 1 =>
    match readScript text with
    | .ok script => run fuel s out script
    | .error e => { s.complain out e.text 2 with ended := some 2 }
end

/-! ## 5. Programs -/

def depth : Nat := 100000

def startTime : Nat := 1000

def isOver (elapsed : Nat) : Option Number → Bool
  | none => false
  | some limit => limit.toFloat * 1000000.0 ≤ elapsed.toFloat

def launcher (files : Tree) : Launcher := fun words input limit =>
  if words.any fun w => w.contains (Char.ofNat 0) then .badArgument
  else match words with
    | [] => .missing
    | program :: args =>
      let isShell := programName program = "sh" && args.head? = some "-c" && 1 < args.length
      let known := isShell || (tool? (programName program) files [] args).isSome
      if known then
        let s : Session := { files, name := program, input }
        let s := match programName program, args with
          | "sh", "-c" :: script :: r =>
            evaluate depth { s with name := r.headD program, parameters := r.drop 1 } {} script.toList
          | name, args => (tool? name files input args).elim s (s.apply {})
        if isOver (s.elapsed + startTime) limit then .timedOut
        else .finished s.stdout s.stderr (s.ended.getD s.status)
      else if program.contains '/' then
        if program.toList.all (· = '/') || files.exists? (files.path program) then .refused .permission else .missing
      else if program = "" then .refused .permission
      else .missing

end Grading.Shell
