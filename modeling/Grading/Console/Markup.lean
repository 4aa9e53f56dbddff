/-!
# Markup — texts with tags

In markup a tag such as `[bold]` says how what follows is shown; a backslash in front of it takes its
meaning away. `escape` makes markup of a plain text, and `plain` is the text that markup shows.
-/

namespace Grading.Console

def beginsTag (c : Char) : Bool := ('a' ≤ c && c ≤ 'z') || c == '#' || c == '/' || c == '@'

def tag? : List Char → Option (List Char × List Char)
  | '[' :: c :: r =>
    if !beginsTag c then none
    else
      let body := r.takeWhile fun d => d ≠ '[' && d ≠ ']'
      match r.drop body.length with
      | ']' :: rest => some ('[' :: c :: (body ++ [']']), rest)
      | _ => none
  | _ => none

def backslashes (s : List Char) : Nat × List Char :=
  ((s.takeWhile (· = '\\')).length, s.dropWhile (· = '\\'))

def escapeTags : Nat → List Char → List Char
  | 0, s => s
  | fuel + 1, s =>
    let (n, rest) := backslashes s
    match tag? rest with
    | some (tag, after) => List.replicate (2 * n + 1) '\\' ++ tag ++ escapeTags fuel after
    | none =>
      match rest with
      | [] => List.replicate n '\\'
      | c :: after => List.replicate n '\\' ++ c :: escapeTags fuel after

/-- Markup that shows a text; one backslash at its end is doubled. -/
def escape (s : List Char) : List Char :=
  let e := escapeTags (s.length + 1) s
  match e.reverse with
  | ['\\'] => e ++ ['\\']
  | '\\' :: c :: _ => if c = '\\' then e else e ++ ['\\']
  | _ => e

def openBrackets : List Char → List Char
  | '\\' :: '[' :: r => '[' :: openBrackets r
  | c :: r => c :: openBrackets r
  | [] => []

/-- The text that markup shows; `held` is what stands before the next tag, last character first. -/
def plainFrom (held : List Char) : Nat → List Char → List Char
  | 0, s => openBrackets (held.reverse ++ s)
  | fuel + 1, s =>
    let (n, rest) := backslashes s
    match tag? rest with
    | some (tag, after) =>
      openBrackets held.reverse ++ List.replicate (n / 2) '\\' ++
        (if n % 2 = 1 then tag else []) ++ plainFrom [] fuel after
    | none =>
      match rest with
      | [] => openBrackets (held.reverse ++ s)
      | c :: after => plainFrom (c :: (List.replicate n '\\' ++ held)) fuel after

def plain (s : List Char) : List Char := plainFrom [] (s.length + 1) s

end Grading.Console
