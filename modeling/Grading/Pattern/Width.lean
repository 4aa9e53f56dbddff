import Grading.Pattern.Basic

/-!
# Width — how many characters an expression asks for

The least and the greatest number of characters are counted up to limits of their own. A greatest
number at its limit differs from every least number, so it stands for no bound.
-/

namespace Grading.Pattern

/-- The bound on the number of repetitions; as an upper bound it stands for none. -/
def repetitionLimit : Nat := Nat.pow 2 32 - 1

/-- The least and the greatest number of characters of a group, absent while it is open. -/
abbrev Widths := List (Option (Nat × Nat))

def Widths.isClosed (ws : Widths) (g : Nat) : Bool := (ws[g]?).join.isSome

def limitWidth (w : Nat × Nat) : Nat × Nat :=
  (min w.1 (repetitionLimit - 1), min w.2 repetitionLimit)

mutual
def Node.width (groups : Widths) : Node → Nat × Nat
  | .char .. => (1, 1)
  | .oneOf .. => (1, 1)
  | .any => (1, 1)
  | .anchor _ => (0, 0)
  | .group _ _ _ body => sequenceWidth groups body
  | .atomic body => sequenceWidth groups body
  | .branch alternatives => branchWidth groups alternatives
  | .repeated _ least most body =>
    let (lo, hi) := sequenceWidth groups body
    (lo * least, hi * most.getD repetitionLimit)
  | .look .. => (0, 0)
  | .backreference g => ((groups[g]?).join).getD (0, 0)
  | .conditional _ yes no =>
    let (lo, hi) := sequenceWidth groups yes
    let (lo', hi') := sequenceWidth groups no
    (min lo lo', max hi hi')

def sequenceWidth (groups : Widths) : List Node → Nat × Nat
  | [] => (0, 0)
  | n :: ns =>
    let (lo, hi) := n.width groups
    let (lo', hi') := sequenceWidth groups ns
    limitWidth (lo + lo', hi + hi')

def branchWidth (groups : Widths) : List (List Node) → Nat × Nat
  | [] => (repetitionLimit - 1, 0)
  | a :: as =>
    let (lo, hi) := sequenceWidth groups a
    let (lo', hi') := branchWidth groups as
    (min lo lo', max hi hi')
end

end Grading.Pattern
