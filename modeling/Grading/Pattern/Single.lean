import Grading.Pattern.Letter
import Grading.Text.Alnum
import Grading.Text.Blank
import Grading.Text.Digit

/-!
# Single — tests of one character

A test is made from a part of an expression and the switches that hold there. Without regard to case
the character is made small first, so the members of a class are then small letters: those of its
characters and ranges in the first plane of the code space. A character past that plane stays as it
is, and so it meets no letter that has a small one; a range that goes past it also holds what has a
capital in it.
-/

namespace Grading.Pattern

open Grading.Text

def Category.holds (k : Category) (ascii : Bool) (c : Char) : Bool :=
  if ascii && 128 ≤ c.toNat then false
  else match k with
    | .digit => isDigit c
    | .blank => if ascii then c == ' ' || (9 ≤ c.toNat && c.toNat ≤ 13) else isBlank c
    | .word => isWordChar c

inductive Member where
  | code (n : Nat)
  | range (first last : Nat)
  /-- The small letters of a range and those that count as equal. -/
  | smallLetters (fold : Folding) (first last : Nat)
  /-- A range and what has a capital in it. -/
  | eitherCase (first last : Nat)
  | category (kind : Category) (ascii negated : Bool)
  deriving DecidableEq, Repr, Inhabited

/-- Whether a code point is the member or one of those it stands for. -/
def Member.holds (n : Nat) : Member → Bool
  | .code m => n = m
  | .range first last => first ≤ n && n ≤ last
  | .smallLetters fold first last =>
    (n :: fold.friends n).any fun s => (fold.origins s).any fun m => first ≤ m && m ≤ last
  | .eitherCase first last =>
    (first ≤ n && n ≤ last) || (first ≤ capitalCode n && capitalCode n ≤ last)
  | .category kind ascii negated => kind.holds ascii (Char.ofNat n) != negated

inductive Single where
  /-- The character is the given one or, negated, any other one. -/
  | char (negated : Bool) (code : Nat) (fold : Option Folding)
  /-- The character is in the class or, negated, outside of it. -/
  | member (negated : Bool) (members : List Member) (fold : Option Folding)
  | any (newline : Bool)
  deriving DecidableEq, Repr, Inhabited

namespace Single

def holds (c : Char) : Single → Bool
  | .char negated code fold => (smallUnder fold c.toNat == code) != negated
  | .member negated members fold => members.any (·.holds (smallUnder fold c.toNat)) != negated
  | .any newline => newline || c ≠ '\n'

def literal? : Single → Option Nat
  | .char false code none => some code
  | _ => none

def isExact : Single → Bool
  | .char negated _ fold => !negated && fold.isNone
  | .member _ _ fold => fold.isNone
  | .any _ => false

def isFolded : Single → Bool
  | .member _ _ fold => fold.isSome
  | _ => false

end Single

def firstPlaneEnd : Nat := 0xffff

def Flags.charTest (f : Flags) (negated : Bool) (code : Nat) : Single :=
  match f.folding? with
  | none => .char negated code none
  | some fold =>
    if !fold.changes code then .char negated code none
    else
      let small := fold.small code
      match fold.friends small with
      | [] => .char negated small (some fold)
      | friends => .member negated ((small :: friends).map .code) (some fold)

def ClassItem.exact (ascii : Bool) : ClassItem → Member
  | .char n => .code n
  | .range first last => .range first last
  | .category kind negated => .category kind ascii negated

/-- The members of a class that are met by small letters where case does not count. -/
def ClassItem.folded (ascii : Bool) (fold : Folding) : ClassItem → List Member
  | .char n =>
    if firstPlaneEnd < n then [.code n]
    else (fold.small n :: fold.friends (fold.small n)).map .code
  | .range first last =>
    if firstPlaneEnd < last then [.smallLetters fold first firstPlaneEnd, .eitherCase first last]
    else [.smallLetters fold first last]
  | .category kind negated => [.category kind ascii negated]

def someChanges (fold : Folding) (n : Nat) : Nat → Bool
  | 0 => false
  | count + 1 => fold.changes n || someChanges fold (n + 1) count

def ClassItem.changes (fold : Folding) : ClassItem → Bool
  | .char n => firstPlaneEnd < n || fold.changes n
  | .range first last => firstPlaneEnd < last || someChanges fold first (last + 1 - first)
  | .category .. => false

def Flags.classTest (f : Flags) (negated : Bool) (items : List ClassItem) : Single :=
  match f.folding? with
  | some fold =>
    if items.any (·.changes fold) then
      .member negated (items.flatMap (·.folded f.ascii fold)) (some fold)
    else .member negated (items.map (·.exact f.ascii)) none
  | none => .member negated (items.map (·.exact f.ascii)) none

end Grading.Pattern
