import Grading.Text.Blank
import Grading.Text.Case
import Grading.Text.Digit

/-!
# Read — floating-point numbers from texts

A number is written as digits with an optional point and an optional exponent, or as one of the words
for infinity and for what is not a number, with blanks around it and a sign in front.
-/

namespace Grading.Decimal

open Grading.Text

def nearest (mantissa : Nat) (exponent : Int) : Float :=
  let size : Int := exponent + (Nat.repr mantissa).length
  if mantissa = 0 then 0
  else if 320 < size then 1.0 / 0.0
  else if size < -350 then 0
  else .ofScientific mantissa (exponent < 0) exponent.natAbs

/-- Digits that may be separated by single underscores, at the beginning of a text: their values, and
the rest. -/
def digitRun (after : Bool) : List Char → List Nat × List Char
  | [] => ([], [])
  | '_' :: c :: r =>
    match after, digitValue? c with
    | true, some d =>
      let (ds, rest) := digitRun true r
      (d :: ds, rest)
    | _, _ => ([], '_' :: c :: r)
  | c :: r =>
    match digitValue? c with
    | some d =>
      let (ds, rest) := digitRun true r
      (d :: ds, rest)
    | none => ([], c :: r)

def ofDigits (ds : List Nat) : Nat := ds.foldl (fun n d => 10 * n + d) 0

def exponent? : List Char → Option Int
  | [] => some 0
  | c :: r =>
    if c = 'e' || c = 'E' then
      let (negative, r) := match r with
        | '-' :: r => (true, r)
        | '+' :: r => (false, r)
        | r => (false, r)
      match digitRun false r with
      | ([], _) => none
      | (ds, []) => some (if negative then -(ofDigits ds : Int) else ofDigits ds)
      | _ => none
    else none

def unsignedFloat? (s : List Char) : Option Float :=
  let (whole, rest) := digitRun false s
  let (fraction, rest, point) := match rest with
    | '.' :: r =>
      let (ds, rest) := digitRun false r
      (ds, rest, true)
    | r => ([], r, false)
  if whole.isEmpty && fraction.isEmpty then
    let word := String.ofList (s.map fun c => if c.toNat < 128 then c.toLower else c)
    if point then none
    else if word = "inf" || word = "infinity" then some (1.0 / 0.0)
    else if word = "nan" then some (0.0 / 0.0)
    else none
  else (exponent? rest).map fun e => nearest (ofDigits (whole ++ fraction)) (e - fraction.length)

def float? (s : List Char) : Option Float :=
  match trim s with
  | '-' :: r => (unsignedFloat? r).map fun x => -x
  | '+' :: r => unsignedFloat? r
  | r => unsignedFloat? r

end Grading.Decimal
