import Grading.Pattern.Single

/-!
# Program — expressions made ready for matching

A program is a list of operations. Switches are resolved in it, a group is a mark before and a mark
after the operations of its body, and a repetition of one character is told apart from one of a body.
-/

namespace Grading.Pattern

inductive Op where
  | single (s : Single)
  | anchor (a : Anchor) (flags : Flags)
  /-- Notes the position; a group has two marks, for its beginning and its end. -/
  | mark (index : Nat)
  | backreference (group : Nat) (fold : Option Folding)
  | conditional (group : Nat) (yes no : List Op)
  | branch (alternatives : List (List Op))
  | repeatSingle (greed : Greed) (least : Nat) (most : Option Nat) (s : Single)
  | repeated (greed : Greed) (least : Nat) (most : Option Nat) (body : List Op)
  | atomic (body : List Op)
  /-- What follows the position or, over so many characters, precedes it. -/
  | look (behind : Option Nat) (negated : Bool) (body : List Op)
  deriving Inhabited

def beginMark (group : Nat) : Nat := 2 * (group - 1)

def endMark (group : Nat) : Nat := 2 * (group - 1) + 1

mutual
def Node.isSingle : Node → Bool
  | .char .. => true
  | .oneOf .. => true
  | .any => true
  | .group none _ _ body => isSingleSequence body
  | _ => false

def isSingleSequence : List Node → Bool
  | [n] => n.isSingle
  | _ => false
end

/-- The repetition of operations; of a single character where the body is nothing else. -/
def Op.ofRepeated (isSingle : Bool) (greed : Greed) (least : Nat) (most : Option Nat)
    (body : List Op) : Op :=
  match isSingle, body with
  | true, [.single s] => .repeatSingle greed least most s
  | _, _ => .repeated greed least most body

mutual
def Node.program (f : Flags) : Node → List Op
  | .char negated code => [.single (f.charTest negated code)]
  | .oneOf negated items => [.single (f.classTest negated items)]
  | .any => [.single (.any f.dotAll)]
  | .anchor a => [.anchor a f]
  | .group index add remove body =>
    let inner := programOf (f.within add remove) body
    match index with
    | none => inner
    | some g => .mark (beginMark g) :: inner ++ [.mark (endMark g)]
  | .atomic body => [.atomic (programOf f body)]
  | .branch alternatives => [.branch (programsOf f alternatives)]
  | .repeated greed least most body =>
    [.ofRepeated (isSingleSequence body) greed least most (programOf f body)]
  | .look behind negated body => [.look behind negated (programOf f body)]
  | .backreference g => [.backreference g f.folding?]
  | .conditional g yes no => [.conditional g (programOf f yes) (programOf f no)]

def programOf (f : Flags) : List Node → List Op
  | [] => []
  | n :: ns => n.program f ++ programOf f ns

def programsOf (f : Flags) : List (List Node) → List (List Op)
  | [] => []
  | a :: as => programOf f a :: programsOf f as
end

/-- The character that what follows begins with, if that is the only one; `next` is what the program
is followed by. -/
def firstLiteral? (next : Option Nat) : List Op → Option Nat
  | [] => next
  | .single s :: _ => s.literal?
  | _ => none

end Grading.Pattern
