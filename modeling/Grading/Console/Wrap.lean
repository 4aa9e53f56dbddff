import Grading.Console.Basic
import Grading.Console.Width
import Grading.Text.Blank
import Grading.Text.Lines

/-!
# Wrap — texts broken into lines of a console

A line ends before the first word that does not fit. A word that fits on no line is either folded over
several or cut short with an ellipsis.
-/

namespace Grading.Console

open Grading.Text

inductive Overflow where
  | fold
  | ellipsis
  deriving DecidableEq, Repr, Inhabited

/-! ## 1. Preparation -/

def withoutControls (s : List Char) : List Char :=
  s.filter fun c => !([7, 8, 11, 12, 13].contains c.toNat)

def expandTabs (column : Nat) : List Char → List Char
  | [] => []
  | '\t' :: r =>
    let spaces := 8 - column % 8
    List.replicate spaces ' ' ++ expandTabs (column + spaces) r
  | c :: r => c :: expandTabs (column + charWidth c) r

/-! ## 2. Breaking -/

/-- The words of a line, each with the blanks after it; the first also has those before it. -/
def wordsFrom : Nat → List Char → List (List Char)
  | 0, _ => []
  | fuel + 1, s =>
    let before := s.takeWhile isBlank
    let s := s.dropWhile isBlank
    let word := s.takeWhile (!isBlank ·)
    if word.isEmpty then []
    else
      let rest := s.dropWhile (!isBlank ·)
      let after := rest.takeWhile isBlank
      (before ++ word ++ after) :: wordsFrom fuel (rest.dropWhile isBlank)

def words (s : List Char) : List (List Char) := wordsFrom (s.length + 1) s

def foldOffsets (start : Nat) : List (List Char) → List Nat × Nat
  | [] => ([], 0)
  | piece :: rest =>
    let here := if start = 0 then [] else [start]
    if rest.isEmpty then (here, width piece)
    else
      let (offsets, cells) := foldOffsets (start + piece.length) rest
      (here ++ offsets, cells)

/-- The offsets at which a line is broken. The first word left starts at `start`, and `taken` is what
the words before it take on their line; it may be more than there are cells. -/
def breaksFrom (overflow : Overflow) (cells start taken : Nat) : List (List Char) → List Nat
  | [] => []
  | word :: rest =>
    let next := start + word.length
    let needed := width (trimRight word)
    let all := width word
    if taken + needed ≤ cells then breaksFrom overflow cells next (taken + all) rest
    else if cells < needed then
      match overflow with
      | .fold =>
        let (offsets, left) := foldOffsets start (chop cells word)
        offsets ++ breaksFrom overflow cells next left rest
      | .ellipsis => (if start = 0 then [] else [start]) ++ breaksFrom overflow cells next all rest
    else if taken ≠ 0 && start ≠ 0 then start :: breaksFrom overflow cells next all rest
    else breaksFrom overflow cells next taken rest

def divide (done : Nat) (s : List Char) : List Nat → List (List Char)
  | [] => [s]
  | offset :: rest => s.take (offset - done) :: divide offset (s.drop (offset - done)) rest

/-! ## 3. Fitting -/

def dropExcess (cells : Nat) (s : List Char) : List Char :=
  let blanks := (s.reverse.takeWhile isBlank).length
  s.take (s.length - min blanks (s.length - cells))

def truncate (overflow : Overflow) (cells : Nat) (s : List Char) : List Char :=
  if width s ≤ cells then s
  else
    match overflow with
    | .fold => fit s cells
    | .ellipsis => fit s (cells - 1) ++ ['…']

def justified (justify : Justify) (overflow : Overflow) (cells : Nat) (s : List Char) : List Char :=
  let spaces (n : Nat) : List Char := List.replicate n ' '
  match justify with
  | .loose => s
  | .left => if width s < cells then s ++ spaces (cells - width s) else truncate overflow cells s
  | .right =>
    let s := truncate overflow cells (trimRight s)
    spaces (cells - width s) ++ s
  | .center =>
    let s := truncate overflow cells (trimRight s)
    let s := spaces ((cells - width s) / 2) ++ s
    s ++ spaces (cells - width s)

def wrapLine (justify : Justify) (overflow : Overflow) (cells : Nat) (s : List Char) :
    List (List Char) :=
  let s := expandTabs 0 s
  (divide 0 s (breaksFrom overflow cells 0 0 (words s))).map fun line =>
    truncate overflow cells (justified justify overflow cells (dropExcess cells line))

def wrap (justify : Justify) (overflow : Overflow) (cells : Nat) (s : List Char) : List (List Char) :=
  (splitAt '\n' (withoutControls s)).flatMap (wrapLine justify overflow cells)

def unwrapped (s : List Char) : List (List Char) := (splitAt '\n' (withoutControls s)).map (expandTabs 0)

end Grading.Console
