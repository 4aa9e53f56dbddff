import Grading.Text.Digit
import Grading.Text.Quoted

/-!
# Error — why an expression cannot be compiled

A cause is found at a position of the expression, or concerns it as a whole.
-/

namespace Grading.Pattern

open Grading.Text

inductive Cause where
  | danglingEscape
  | badEscape (escape : String)
  | incompleteEscape (escape : String)
  | octalTooLarge (escape : String)
  | missing (what : String)
  | unterminatedName (terminator : Char)
  | undefinedCharacter (name : String)
  | unterminatedClass
  | badRange (first last : String)
  | nothingToRepeat
  | multipleRepeat
  | leastOverMost
  | unexpectedEnd
  | unknownExtension (text : String)
  | unterminatedComment
  | unterminatedGroup
  | badGroupName (name : String)
  | unknownGroupName (name : String)
  | redefinedGroup (name : String) (new old : Nat)
  | openGroup
  | groupOfSameLookbehind
  | badGroupNumber
  | invalidGroup (number : Nat)
  | tooManyBranches
  | flagsNotAtStart
  | badFlags (reason : String)
  | unknownFlag
  | unbalanced
  deriving DecidableEq, Repr, Inhabited

def Cause.text : Cause → String
  | .danglingEscape => "bad escape (end of pattern)"
  | .badEscape e => "bad escape " ++ e
  | .incompleteEscape e => "incomplete escape " ++ e
  | .octalTooLarge e => "octal escape value " ++ e ++ " outside of range 0-0o377"
  | .missing what => "missing " ++ what
  | .unterminatedName t => "missing " ++ String.singleton t ++ ", unterminated name"
  | .undefinedCharacter name => "undefined character name " ++ quoted name
  | .unterminatedClass => "unterminated character set"
  | .badRange first last => "bad character range " ++ first ++ "-" ++ last
  | .nothingToRepeat => "nothing to repeat"
  | .multipleRepeat => "multiple repeat"
  | .leastOverMost => "min repeat greater than max repeat"
  | .unexpectedEnd => "unexpected end of pattern"
  | .unknownExtension t => "unknown extension ?" ++ t
  | .unterminatedComment => "missing ), unterminated comment"
  | .unterminatedGroup => "missing ), unterminated subpattern"
  | .badGroupName name => "bad character in group name " ++ quoted name
  | .unknownGroupName name => "unknown group name " ++ quoted name
  | .redefinedGroup name new old =>
    "redefinition of group name " ++ quoted name ++ " as group " ++ Nat.repr new ++
      "; was group " ++ Nat.repr old
  | .openGroup => "cannot refer to an open group"
  | .groupOfSameLookbehind => "cannot refer to group defined in the same lookbehind subpattern"
  | .badGroupNumber => "bad group number"
  | .invalidGroup n => "invalid group reference " ++ Nat.repr n
  | .tooManyBranches => "conditional backref with more than two branches"
  | .flagsNotAtStart => "global flags not at the start of the expression"
  | .badFlags reason => "bad inline flags: " ++ reason
  | .unknownFlag => "unknown flag"
  | .unbalanced => "unbalanced parenthesis"

inductive Error where
  | at (cause : Cause) (position : Nat)
  /-- The text before a position has no fixed length. -/
  | variableLookbehind
  /-- A repetition under the switch that forbids it. -/
  | repetitionForbidden (operator : String)
  /-- A number of repetitions that is out of range. -/
  | repetitionTooLarge
  /-- A number of repetitions with more digits than are read. -/
  | numberTooLong (e : NumberTooLong)
  /-- A look behind over too many characters. -/
  | lookbehindTooWide
  /-- Switches for seven-bit characters and for all scripts at once. -/
  | incompatibleFlags
  deriving DecidableEq, Repr, Inhabited

def lineAndColumn (source : List Char) (position : Nat) : Nat × Nat :=
  let before := source.take position
  (before.count '\n' + 1, (before.reverse.takeWhile (· ≠ '\n')).length + 1)

/-- The text of an error in the given expression; it names line and column if there are several
lines. -/
def Error.text (source : List Char) : Error → String
  | .at cause position =>
    let place := cause.text ++ " at position " ++ Nat.repr position
    if source.contains '\n' then
      let (line, column) := lineAndColumn source position
      place ++ " (line " ++ Nat.repr line ++ ", column " ++ Nat.repr column ++ ")"
    else place
  | .variableLookbehind => "look-behind requires fixed-width pattern"
  | .repetitionForbidden op => "internal: unsupported template operator " ++ op
  | .repetitionTooLarge => "the repetition number is too large"
  | .numberTooLong e => e.text
  | .lookbehindTooWide => "invalid SRE code"
  | .incompatibleFlags => "ASCII and UNICODE flags are incompatible"

/-- The name of the kind of an error that is not one of the notation but of a number or a switch out
of range. -/
def Error.kind? : Error → Option String
  | .repetitionTooLarge => some "OverflowError"
  | .numberTooLong _ => some "ValueError"
  | .lookbehindTooWide => some "RuntimeError"
  | .incompatibleFlags => some "ValueError"
  | _ => none

end Grading.Pattern
