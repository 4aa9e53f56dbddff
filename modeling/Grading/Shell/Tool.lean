import Grading.Files.Tree
import Grading.Text.Utf8

/-!
# Tool — programs of a command line

A tool is a function of its arguments, its input and the files: it prints on two outputs, leaves the
rest of its input and ends with a status after some time.
-/

namespace Grading.Shell

open Grading.Files Grading.Text

abbrev Bytes := List UInt8

/-- What a tool does; `delay` is in microseconds. -/
structure Effect where
  stdout : Bytes := []
  stderr : Bytes := []
  status : Nat := 0
  rest : Bytes := []
  delay : Nat := 0
  deriving Inhabited

def complaint (text : String) (status : Nat := 1) (rest : Bytes := []) : Effect :=
  { stderr := encode (text ++ "\n"), status, rest }

/-! ## 1. Escapes -/

def isOctal (c : Char) : Bool := '0' ≤ c && c ≤ '7'

def octal (width value : Nat) : List Char → Nat × List Char
  | [] => (value, [])
  | c :: r =>
    match width with
    | 0 => (value, c :: r)
    | k + 1 => if isOctal c then octal k (8 * value + (c.toNat - 48)) r else (value, c :: r)

def escapeByte? (c : Char) : Option Nat :=
  match c with
  | 'a' => some 7
  | 'b' => some 8
  | 'f' => some 12
  | 'n' => some 10
  | 'r' => some 13
  | 't' => some 9
  | 'v' => some 11
  | '\\' => some 92
  | _ => none

def charBytes (c : Char) : Bytes := encode (String.singleton c)

/-- One step through a text with escapes: bytes and the rest, or nothing when output ends. With
`zero`, an octal escape begins with a zero. -/
def unescapeStep (zero : Bool) : List Char → Option (Bytes × List Char)
  | [] => none
  | '\\' :: c :: r =>
    if zero && c = 'c' then none
    else match escapeByte? c with
      | some n => some ([n.toUInt8], r)
      | none =>
        if zero then
          if c = '0' then
            let (n, rest) := octal 3 0 r
            some ([n.toUInt8], rest)
          else some (charBytes '\\' ++ charBytes c, r)
        else if isOctal c then
          let (n, rest) := octal 3 0 (c :: r)
          some ([n.toUInt8], rest)
        else some (charBytes '\\' ++ charBytes c, r)
  | c :: r => some (charBytes c, r)

def unescape (zero : Bool) (fuel : Nat) (s : List Char) : Bytes :=
  match fuel with
  | 0 => []
  | fuel + 1 =>
    match unescapeStep zero s with
    | none => []
    | some (bytes, r) => bytes ++ unescape zero fuel r

/-! ## 2. Printing -/

/-- Arguments with blanks between them and a line feed, or without it after the option `-n`. -/
def echo (escapes : Bool) (args : List String) : Effect :=
  let (args, newline) : List String × Bytes := match args with
    | "-n" :: r => (r, [])
    | r => (r, [10])
  let text := (" ".intercalate args).toList
  let stopped := escapes && (text.zip (text.drop 1)).any (· = ('\\', 'c'))
  { stdout := (if escapes then unescape true (text.length + 1) text else encode (String.ofList text)) ++
      (if stopped then [] else newline) }

def argumentInt (s : String) : Int :=
  let digits (cs : List Char) : Int := (cs.takeWhile Char.isDigit).foldl (fun n c => 10 * n + (c.toNat - 48)) 0
  match s.toList with
  | '-' :: r => -(digits r)
  | '+' :: r => digits r
  | r => digits r

/-- One pass over a format: the bytes, the arguments left, and whether one was used. -/
def printOnce (fuel : Nat) (format : List Char) (args : List String) (used : Bool) :
    Bytes × List String × Bool :=
  match fuel with
  | 0 => ([], args, used)
  | fuel + 1 =>
    match format with
    | [] => ([], args, used)
    | '%' :: '%' :: r =>
      let (bs, args, used) := printOnce fuel r args used
      (37 :: bs, args, used)
    | '%' :: c :: r =>
      let arg := args.headD ""
      let bytes := match c with
        | 's' => encode arg
        | 'd' => encode (toString (argumentInt arg))
        | 'i' => encode (toString (argumentInt arg))
        | 'c' => encode (String.ofList (arg.toList.take 1))
        | 'b' => unescape true (arg.length + 1) arg.toList
        | c => charBytes '%' ++ charBytes c
      let (bs, args, used) := printOnce fuel r (args.drop 1) true
      (bytes ++ bs, args, used)
    | s =>
      match unescapeStep false s with
      | none => ([], args, used)
      | some (bytes, r) =>
        let (bs, args, used) := printOnce fuel r args used
        (bytes ++ bs, args, used)

def printAll (fuel : Nat) (format : List Char) (args : List String) : Bytes :=
  match fuel with
  | 0 => []
  | fuel + 1 =>
    let (bs, rest, used) := printOnce (format.length + 1) format args false
    if rest.isEmpty || !used then bs else bs ++ printAll fuel format rest

def printf (args : List String) : Effect :=
  match args with
  | [] => complaint "printf: usage: printf format [arg ...]" 2
  | format :: args => { stdout := printAll (args.length + 1) format.toList args }

/-! ## 3. Filters -/

def contents (tool : String) (files : Tree) (input : Bytes) (name : String) : Except Effect Bytes :=
  if name = "-" || name = "/dev/stdin" then .ok input
  else if name = "/dev/null" then .ok []
  else match files.read (files.path name) with
    | .ok bs => .ok bs
    | .error e => .error (complaint (tool ++ ": " ++ name ++ ": " ++ e.reason))

def concatenate (files : Tree) (input : Bytes) (names : List String) : Effect :=
  names.foldl (fun e name =>
    let input := if names.takeWhile (· ≠ "-") |>.contains name then input else e.rest
    match contents "cat" files input name with
    | .ok bs => { e with stdout := e.stdout ++ bs, rest := if name = "-" then [] else e.rest }
    | .error f => { e with stderr := e.stderr ++ f.stderr, status := 1 }) { rest := input }

def cat (files : Tree) (input : Bytes) (args : List String) : Effect :=
  let names := args.filter fun a => a = "-" || !a.startsWith "-"
  if names.isEmpty then { stdout := input } else concatenate files input names

def classBytes (name : String) : Bytes :=
  let range (a b : Nat) : Bytes := (List.range (b + 1 - a)).map fun i => (a + i).toUInt8
  match name with
  | "upper" => range 65 90
  | "lower" => range 97 122
  | "digit" => range 48 57
  | "alpha" => range 65 90 ++ range 97 122
  | "alnum" => range 48 57 ++ range 65 90 ++ range 97 122
  | "space" => range 9 13 ++ [32]
  | "blank" => [9, 32]
  | "punct" => range 33 47 ++ range 58 64 ++ range 91 96 ++ range 123 126
  | _ => []

def setBytes (fuel : Nat) (s : List Char) : Bytes :=
  match fuel with
  | 0 => []
  | fuel + 1 =>
    match s with
    | [] => []
    | '[' :: ':' :: r =>
      let name := r.takeWhile (· ≠ ':')
      classBytes (String.ofList name) ++ setBytes fuel (r.drop (name.length + 2))
    | '\\' :: c :: r =>
      if isOctal c then
        let (n, rest) := octal 3 0 (c :: r)
        n.toUInt8 :: setBytes fuel rest
      else ((escapeByte? c).map fun n => [n.toUInt8]).getD (charBytes c) ++ setBytes fuel r
    | a :: '-' :: b :: r =>
      ((List.range (b.toNat + 1 - a.toNat)).map fun i => (a.toNat + i).toUInt8) ++ setBytes fuel r
    | c :: r => charBytes c ++ setBytes fuel r

def setOf (s : String) : Bytes := setBytes (s.length + 1) s.toList

def translated (old new : Bytes) (b : UInt8) : UInt8 :=
  match old.reverse.findIdx? (· = b) with
  | none => b
  | some i => (new[old.length - 1 - i]?).getD ((new.getLast?).getD b)

def squeezed (set : Bytes) : Bytes → Bytes
  | a :: b :: r => if a = b && set.contains a then squeezed set (b :: r) else a :: squeezed set (b :: r)
  | r => r

def tr (input : Bytes) (args : List String) : Effect :=
  match args with
  | ["-d", set] => { stdout := input.filter fun b => !(setOf set).contains b }
  | ["-cd", set] => { stdout := input.filter fun b => (setOf set).contains b }
  | ["-s", set] => { stdout := squeezed (setOf set) input }
  | [old, new] => { stdout := input.map (translated (setOf old) (setOf new)) }
  | [] => complaint "tr: missing operand\nTry 'tr --help' for more information."
  | a :: _ =>
    complaint ("tr: missing operand after '" ++ a ++ "'\nTwo strings must be given when translating.\n" ++
      "Try 'tr --help' for more information.")

def byteLines (bs : Bytes) : List Bytes :=
  let (done, last) := bs.foldl (fun (done, line) b =>
    if b = 10 then (((b :: line).reverse) :: done, []) else (done, b :: line)) (([], []) : List Bytes × Bytes)
  (if last.isEmpty then done else last.reverse :: done).reverse

def countOption (args : List String) : (Bool × Nat) × List String :=
  match args with
  | "-c" :: n :: r => ((true, (argumentInt n).toNat), r)
  | "-n" :: n :: r => ((false, (argumentInt n).toNat), r)
  | a :: r =>
    match a.toList with
    | '-' :: 'c' :: d => ((true, (argumentInt (String.ofList d)).toNat), r)
    | '-' :: 'n' :: d => ((false, (argumentInt (String.ofList d)).toNat), r)
    | '-' :: d :: ds => ((false, (argumentInt (String.ofList (d :: ds))).toNat), r)
    | _ => ((false, 10), args)
  | [] => ((false, 10), [])

def filtered (tool : String) (files : Tree) (input : Bytes) (names : List String) (f : Bytes → Bytes) :
    Effect :=
  match names with
  | [] => { stdout := f input }
  | name :: _ =>
    match contents tool files input name with
    | .ok bs => { stdout := f bs, rest := if name = "-" then [] else input }
    | .error e => { e with rest := input }

def head (files : Tree) (input : Bytes) (args : List String) : Effect :=
  let ((bytes, n), names) := countOption args
  filtered "head" files input names fun bs =>
    if bytes then bs.take n else ((byteLines bs).take n).flatten

def tail (files : Tree) (input : Bytes) (args : List String) : Effect :=
  let ((bytes, n), names) := countOption args
  filtered "tail" files input names fun bs =>
    if bytes then bs.drop (bs.length - n)
    else
      let ls := byteLines bs
      (ls.drop (ls.length - n)).flatten

def wordCount (files : Tree) (input : Bytes) (args : List String) : Effect :=
  match args with
  | "-c" :: names => filtered "wc" files input names fun bs => encode (Nat.repr bs.length ++ "\n")
  | "-l" :: names =>
    filtered "wc" files input names fun bs => encode (Nat.repr (bs.count 10) ++ "\n")
  | _ => complaint "wc: unknown option"

def indexOf? (needle : Bytes) : Bytes → Option Nat
  | [] => if needle.isEmpty then some 0 else none
  | b :: r =>
    if needle.isPrefixOf (b :: r) then some 0 else (indexOf? needle r).map (· + 1)

def replaced (fuel : Nat) (all : Bool) (old new line : Bytes) : Bytes :=
  match fuel with
  | 0 => line
  | fuel + 1 =>
    if old.isEmpty then line
    else match indexOf? old line with
      | none => line
      | some i =>
        let after := line.drop (i + old.length)
        line.take i ++ new ++ (if all then replaced fuel all old new after else after)

def sed (files : Tree) (input : Bytes) (args : List String) : Effect :=
  match args with
  | script :: names =>
    match script.toList with
    | 's' :: sep :: r =>
      let old := r.takeWhile (· ≠ sep)
      let r := r.drop (old.length + 1)
      let new := r.takeWhile (· ≠ sep)
      let all := (r.drop (new.length + 1)).contains 'g'
      let o := encode (String.ofList old)
      let n := encode (String.ofList new)
      filtered "sed" files input names fun bs =>
        ((byteLines bs).map fun l => replaced (l.length + 1) all o n l).flatten
    | _ => complaint "sed: unknown command"
  | [] => complaint "sed: missing script"

def grep (files : Tree) (input : Bytes) (args : List String) : Effect :=
  let options := args.takeWhile fun a => a.startsWith "-"
  match args.drop options.length with
  | [] => complaint "grep: missing pattern" 2
  | needle :: names =>
    let n := encode needle
    let e := filtered "grep" files input names fun bs =>
      ((byteLines bs).filter fun l => (indexOf? n l).isSome != options.contains "-v").flatten
    let e := { e with status := if e.status ≠ 0 then 2 else if e.stdout.isEmpty then 1 else 0 }
    if options.contains "-q" then { e with stdout := [] }
    else if options.contains "-c" then { e with stdout := encode (Nat.repr (byteLines e.stdout).length ++ "\n") }
    else e

/-! ## 4. Other tools -/

def microseconds (s : String) : Nat :=
  let cs := s.toList
  let whole := cs.takeWhile Char.isDigit
  let rest := cs.drop whole.length
  let fraction := match rest with
    | '.' :: r => r.takeWhile Char.isDigit
    | _ => []
  let digits := (fraction ++ List.replicate 6 '0').take 6
  let value := (whole ++ digits).foldl (fun n c => 10 * n + (c.toNat - 48)) 0
  match cs.getLast? with
  | some 'm' => 60 * value
  | some 'h' => 3600 * value
  | _ => value

def sleep (input : Bytes) (args : List String) : Effect :=
  if args.isEmpty then complaint "sleep: missing operand\nTry 'sleep --help' for more information." 1 input
  else { delay := (args.map microseconds).foldr (· + ·) 0, rest := input }

def condition (files : Tree) (args : List String) : Bool :=
  match args with
  | [] => false
  | [s] => s ≠ ""
  | ["!", s] => s = ""
  | ["-n", s] => s ≠ ""
  | ["-z", s] => s = ""
  | ["-e", s] => files.exists? (files.path s)
  | ["-f", s] => files.isFile (files.path s)
  | ["-d", s] => files.isDirectory (files.path s)
  | [a, "=", b] => a = b
  | [a, "!=", b] => a ≠ b
  | [a, "-eq", b] => argumentInt a = argumentInt b
  | [a, "-ne", b] => argumentInt a ≠ argumentInt b
  | [a, "-lt", b] => argumentInt a < argumentInt b
  | [a, "-gt", b] => argumentInt b < argumentInt a
  | [a, "-le", b] => argumentInt a ≤ argumentInt b
  | [a, "-ge", b] => argumentInt b ≤ argumentInt a
  | _ => false

def ofBool (input : Bytes) (b : Bool) : Effect := { status := if b then 0 else 1, rest := input }

/-- A tool by its name; nothing if there is none. A tool that does not read leaves its input. -/
def tool? (name : String) (files : Tree) (input : Bytes) (args : List String) : Option Effect :=
  match name with
  | "cat" => some (cat files input args)
  | "echo" => some { echo false args with rest := input }
  | "printf" => some { printf args with rest := input }
  | "true" => some (ofBool input true)
  | "false" => some (ofBool input false)
  | "tr" => some (tr input args)
  | "head" => some (head files input args)
  | "tail" => some (tail files input args)
  | "wc" => some (wordCount files input args)
  | "sed" => some (sed files input args)
  | "grep" => some (grep files input args)
  | "sleep" => some (sleep input args)
  | "test" => some (ofBool input (condition files args))
  | "[" => some (ofBool input (condition files args.dropLast))
  | "tee" => some { stdout := input }
  | _ => none

end Grading.Shell
