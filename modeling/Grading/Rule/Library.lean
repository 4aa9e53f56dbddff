import Grading.Rule.Basic
import Grading.Table

/-!
# Library — the rules of exercises

A library keeps the rules of each exercise in the order in which their identifiers first came. A
later definition of an identifier takes the place of the earlier one and is told of.
-/

namespace Grading

structure Library where
  /-- The rules of each exercise, in the order in which the exercises first came. -/
  exercises : Table String (List Rule) := []
  /-- The file that last defined a rule of an exercise, by the identifiers of both; nothing for a rule
  that a program defined. -/
  sources : Table (String × String) (Option String) := []
  deriving Inhabited

namespace Library

/-! ## 1. Views -/

def rules (l : Library) (exercise : String) : List Rule := (l.exercises.lookup exercise).getD []

def hasRules (l : Library) (exercise : String) : Bool := !(l.rules exercise).isEmpty

def ids (l : Library) : List String := (l.exercises.map (·.1)).mergeSort (· ≤ ·)

def size (l : Library) : Nat := l.exercises.length

def rulesPerExercise (l : Library) : List (String × Nat) :=
  l.ids.map fun id => (id, (l.rules id).length)

def totalRules (l : Library) : Nat := (l.rulesPerExercise.map (·.2)).foldr (· + ·) 0

def shown (l : Library) : String :=
  "RuleLibrary(exercises=" ++ Nat.repr l.size ++ ", rules=" ++
    Nat.repr ((l.exercises.map fun e => e.2.length).foldr (· + ·) 0) ++ ")"

/-! ## 2. Additions -/

def overrideNotice (exercise id : String) (new old : Option String) : Notice :=
  ⟨.warning, "Duplicate rule '" ++ id ++ "' for exercise '" ++ exercise ++ "': " ++
    new.getD "code" ++ " overrides previous definition from " ++ old.getD "code"⟩

structure Registering where
  rules : List Rule
  /-- Where the rules stand, by their identifiers. -/
  positions : Table String Nat
  sources : Table (String × String) (Option String)

def positionsOf (rules : List Rule) : Table String Nat :=
  rules.zipIdx.foldl (fun positions (r, i) => positions.put r.id i) []

def Registering.register (exercise : String) (source : Option String) (g : Registering) (r : Rule) :
    Registering × List Notice :=
  let key := (exercise, r.id)
  let sources := g.sources.put key source
  match g.positions.lookup r.id with
  | some i =>
    ({ g with rules := g.rules.set i r, sources },
      [overrideNotice exercise r.id source (g.sources.lookup key).join])
  | none =>
    ({ rules := g.rules ++ [r], positions := g.positions.put r.id g.rules.length, sources }, [])

def Registering.registerAll (exercise : String) (source : Option String) (g : Registering) :
    List Rule → Registering × List Notice
  | [] => (g, [])
  | r :: rs =>
    let (g, notices) := g.register exercise source r
    let (g, more) := g.registerAll exercise source rs
    (g, notices ++ more)

/-- Adds rules to an exercise, which is known from then on even if there are none. -/
def add (l : Library) (exercise : String) (rules : List Rule) (source : Option String := none) :
    Library × List Notice :=
  let held := l.rules exercise
  -- -- The index is made anew for each addition.
  let (g, notices) :=
    Registering.registerAll exercise source ⟨held, positionsOf held, l.sources⟩ rules
  ({ exercises := l.exercises.put exercise g.rules, sources := g.sources }, notices)

end Library

end Grading
