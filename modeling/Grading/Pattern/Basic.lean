/-!
# Pattern — regular expressions

The syntax tree of a regular expression. Code points are numbers, since an expression may name ones
that no text holds.
-/

namespace Grading.Pattern

structure Flags where
  ignoreCase : Bool := false
  multiline : Bool := false
  dotAll : Bool := false
  verbose : Bool := false
  /-- Classes and case follow the seven-bit characters alone. -/
  ascii : Bool := false
  /-- Classes and case follow all scripts; the default. -/
  unicode : Bool := false
  /-- A switch that only forbids repetition. -/
  template : Bool := false
  deriving DecidableEq, Repr, Inhabited

def Flags.union (a b : Flags) : Flags where
  ignoreCase := a.ignoreCase || b.ignoreCase
  multiline := a.multiline || b.multiline
  dotAll := a.dotAll || b.dotAll
  verbose := a.verbose || b.verbose
  ascii := a.ascii || b.ascii
  unicode := a.unicode || b.unicode
  template := a.template || b.template

def Flags.diff (a b : Flags) : Flags where
  ignoreCase := a.ignoreCase && !b.ignoreCase
  multiline := a.multiline && !b.multiline
  dotAll := a.dotAll && !b.dotAll
  verbose := a.verbose && !b.verbose
  ascii := a.ascii && !b.ascii
  unicode := a.unicode && !b.unicode
  template := a.template && !b.template

def Flags.meets (a b : Flags) : Bool :=
  (a.ignoreCase && b.ignoreCase) || (a.multiline && b.multiline) || (a.dotAll && b.dotAll) ||
    (a.verbose && b.verbose) || (a.ascii && b.ascii) || (a.unicode && b.unicode) ||
    (a.template && b.template)

def Flags.within (outer add remove : Flags) : Flags :=
  let base := if add.ascii || add.unicode then { outer with ascii := false, unicode := false }
    else outer
  (base.union add).diff remove

inductive Category where
  | digit
  | blank
  | word
  deriving DecidableEq, Repr, Inhabited

inductive ClassItem where
  | char (code : Nat)
  | range (first last : Nat)
  | category (kind : Category) (negated : Bool)
  deriving DecidableEq, Repr, Inhabited

inductive Anchor where
  | lineStart
  | lineEnd
  | textStart
  | textEnd
  | wordBoundary
  | noWordBoundary
  deriving DecidableEq, Repr, Inhabited

inductive Greed where
  /-- Most first. -/
  | greedy
  /-- Fewest first. -/
  | lazy
  /-- As many as there are, and no fewer. -/
  | possessive
  deriving DecidableEq, Repr, Inhabited

inductive Node where
  /-- One character, or any other one. -/
  | char (negated : Bool) (code : Nat)
  | oneOf (negated : Bool) (items : List ClassItem)
  | any
  | anchor (a : Anchor)
  | group (index : Option Nat) (add remove : Flags) (body : List Node)
  | atomic (body : List Node)
  | branch (alternatives : List (List Node))
  | repeated (greed : Greed) (least : Nat) (most : Option Nat) (body : List Node)
  /-- What follows a position or, over so many characters, precedes it. -/
  | look (behind : Option Nat) (negated : Bool) (body : List Node)
  | backreference (group : Nat)
  | conditional (group : Nat) (yes no : List Node)
  deriving Inhabited

end Grading.Pattern

namespace Grading

/-- A compiled expression: the switches it sets for the whole of itself, its body, and the least
number of characters that the body asks for. -/
structure Pattern where
  flags : Pattern.Flags
  body : List Pattern.Node
  least : Nat
  deriving Inhabited

end Grading
