import Grading.Shell.Token

/-!
# Script — command lines as trees

A script is made of simple commands, pipelines, and sequences that go on always, on success or on
failure.
-/

namespace Grading.Shell

structure Redirection where
  stream : Nat
  sign : String
  target : Word
  deriving DecidableEq, Repr, Inhabited

inductive Script where
  | empty
  | command (words : List Word) (redirections : List Redirection)
  | pipe (left right : Script)
  | sequence (left right : Script)
  | ifOk (left right : Script)
  | ifFailed (left right : Script)
  | negation (s : Script)
  /-- Commands in brackets; with `apart` they run in a session of their own. -/
  | group (apart : Bool) (s : Script) (redirections : List Redirection)
  deriving Repr, Inhabited

def Token.isBare (t : Token) (s : String) : Bool := t = .word (s.toList.map fun c => .text [c])

def Token.shown : Token → String
  | .word w => "\"" ++ String.ofList (w.flatMap fun p =>
      match p with
      | .text cs => cs
      | .quotedText cs => cs
      | _ => []) ++ "\""
  | .operator "\n" => "newline"
  | .operator s => "\"" ++ s ++ "\""
  | .redirection _ _ => "redirection"

def unexpected : List Token → SyntaxError
  | [] => .unexpected "end of file"
  | t :: _ => .unexpected t.shown

def isNewline (t : Token) : Bool := t = .operator "\n"

def readSimple (words : List Word) (redirections : List Redirection) :
    List Token → Except SyntaxError (List Word × List Redirection × List Token)
  | .word w :: r => readSimple (words ++ [w]) redirections r
  | .redirection stream sign :: .word w :: r =>
    readSimple words (redirections ++ [⟨stream, sign, w⟩]) r
  | .redirection _ _ :: r => .error (unexpected r)
  | r => .ok (words, redirections, r)

mutual
def readCommand (fuel : Nat) (ts : List Token) : Except SyntaxError (Script × List Token) :=
  match fuel with
  | 0 => .error (unexpected ts)
  | fuel + 1 =>
    match ts with
    | .operator "(" :: r => do
      let (s, r) ← readList fuel r
      let .operator ")" :: r := r | throw (unexpected r)
      let (words, redirections, r) ← readSimple [] [] r
      if !words.isEmpty then throw (unexpected (words.map Token.word))
      return (.group true s redirections, r)
    | t :: r => do
      if t.isBare "\x7b" then
        let (s, r) ← readList fuel r
        let u :: r := r | throw (unexpected r)
        if !u.isBare "\x7d" then throw (unexpected (u :: r))
        let (words, redirections, r) ← readSimple [] [] r
        if !words.isEmpty then throw (unexpected (words.map Token.word))
        return (.group false s redirections, r)
      if t.isBare "!" then
        let (s, r) ← readPipeline fuel r
        return (.negation s, r)
      let (words, redirections, rest) ← readSimple [] [] (t :: r)
      if words.isEmpty && redirections.isEmpty then throw (unexpected (t :: r))
      return (.command words redirections, rest)
    | [] => .error (unexpected [])

def readPipeline (fuel : Nat) (ts : List Token) : Except SyntaxError (Script × List Token) :=
  match fuel with
  | 0 => .error (unexpected ts)
  | fuel + 1 => do
    let (s, r) ← readCommand fuel ts
    match r with
    | .operator "|" :: r =>
      let (t, r) ← readPipeline fuel (r.dropWhile isNewline)
      return (.pipe s t, r)
    | r => return (s, r)

/-- Pipelines that depend on each other; `done` is what was read so far. -/
def readChain (fuel : Nat) (done : Script) (ts : List Token) : Except SyntaxError (Script × List Token) :=
  match fuel with
  | 0 => .error (unexpected ts)
  | fuel + 1 =>
    match ts with
    | .operator "&&" :: r => do
      let (s, r) ← readPipeline fuel (r.dropWhile isNewline)
      readChain fuel (.ifOk done s) r
    | .operator "||" :: r => do
      let (s, r) ← readPipeline fuel (r.dropWhile isNewline)
      readChain fuel (.ifFailed done s) r
    | r => .ok (done, r)

def readList (fuel : Nat) (ts : List Token) : Except SyntaxError (Script × List Token) :=
  match fuel with
  | 0 => .error (unexpected ts)
  | fuel + 1 =>
    match ts.dropWhile isNewline with
    | [] => .ok (.empty, [])
    | t :: r =>
      if t = .operator ")" || t.isBare "\x7d" then .ok (.empty, t :: r)
      else do
        let (first, r) ← readPipeline fuel (t :: r)
        let (s, r) ← readChain fuel first r
        match r with
        | .operator o :: r =>
          if o = ";" || o = "&" || o = "\n" then
            let (more, r) ← readList fuel r
            return (.sequence s more, r)
          else if o = ")" then return (s, .operator o :: r)
          else throw (unexpected (.operator o :: r))
        | r => return (s, r)
end

def readScript (text : List Char) : Except SyntaxError Script := do
  let ts ← tokens (text.length + 1) text
  let (s, r) ← readList (4 * ts.length + 8) ts
  if !r.isEmpty then throw (unexpected r)
  return s

end Grading.Shell
