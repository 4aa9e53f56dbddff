import Grading.Text.Blank
import Grading.Text.Digit

/-!
# Integer — whole numbers in texts

A whole number is an optional sign and digits of any script, with single underscores between digits
and blanks around it. To a base other than ten the letter of the base may stand in front.
-/

namespace Grading.Text

/-- The value of a digit, of which letters are those after nine. -/
def baseDigit? (c : Char) : Option Nat :=
  match digitValue? c with
  | some d => some d
  | none =>
    if 'a' ≤ c && c ≤ 'z' then some (c.toNat - 87)
    else if 'A' ≤ c && c ≤ 'Z' then some (c.toNat - 55)
    else none

/-- The digits to a base, possibly separated by single underscores; each is less than the base. -/
def baseDigits? (base : Nat) : List Char → Option (List Nat)
  | [] => some []
  | '_' :: c :: r => do
    let d ← baseDigit? c
    if d < base then return d :: (← baseDigits? base r) else none
  | c :: r => do
    let d ← baseDigit? c
    if d < base then return d :: (← baseDigits? base r) else none

def baseLetter? (base : Nat) : Option Char :=
  if base = 2 then some 'b' else if base = 8 then some 'o' else if base = 16 then some 'x' else none

def dropBase (base : Nat) (s : List Char) : List Char :=
  match s with
  | '0' :: c :: r => if baseLetter? base = some c.toLower then (if r.head? = some '_' then r.drop 1 else r) else s
  | s => s

def unsignedDigits? (base : Nat) (s : List Char) : Option (List Nat) :=
  match dropBase base s with
  | [] => none
  | '_' :: _ => none
  | s => baseDigits? base s

inductive IntegerError where
  | invalid
  | tooLong (e : NumberTooLong)
  deriving DecidableEq, Repr, Inhabited

def readInteger (base : Nat) (s : List Char) : Except IntegerError Int :=
  let (negative, s) := match trim s with
    | '-' :: r => (true, r)
    | '+' :: r => (false, r)
    | r => (false, r)
  match unsignedDigits? base s with
  | none => .error .invalid
  | some ds =>
    if base = 10 && digitLimit < ds.length then .error (.tooLong ⟨ds.length⟩)
    else
      let n := ds.foldl (fun n d => base * n + d) 0
      .ok (if negative then -(n : Int) else n)

def integer? (s : List Char) : Option Int := (readInteger 10 s).toOption

end Grading.Text
