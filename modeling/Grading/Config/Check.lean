import Grading.Config.Issue
import Grading.Data.Show
import Grading.Decimal.Read
import Grading.Text.Utf8

/-!
# Check — values taken in a lenient way

A text that writes a number stands for it, and a number can stand for a truth value. What is wrong with
the parts of a value is wrong with the value, one step further down.
-/

namespace Grading

open Grading.Text Grading.Decimal

/-! ## 1. Issues -/

/-- A value, or all issues with it. -/
abbrev Checked := Except (List Issue)

namespace Checked

def fail {α : Type} (kind : IssueKind) : Checked α := .error [{ kind }]

def below {α : Type} (s : PlaceStep) (a : Checked α) : Checked α :=
  a.mapError (·.map fun i => { i with place := s :: i.place })

def both {α β : Type} (a : Checked α) (b : Checked β) : Checked (α × β) :=
  match a, b with
  | .ok a, .ok b => .ok (a, b)
  | .ok _, .error e => .error e
  | .error e, .ok _ => .error e
  | .error e, .error f => .error (e ++ f)

def all {α : Type} : List (Checked α) → Checked (List α)
  | [] => .ok []
  | a :: as => (both a (all as)).map fun (x, xs) => x :: xs

def ensure {α : Type} (p : α → Bool) (kind : IssueKind) (a : Checked α) : Checked α := do
  let x ← a
  if p x then return x else fail kind

end Checked

/-! ## 2. Scalars -/

def textOf? (kind : IssueKind) : Data → Checked (Option String)
  | .text s => .ok (some s)
  | .bytes bs =>
    match decode bs with
    | .ok cs => .ok (some (String.ofList cs))
    | .error _ => .fail kind
  | _ => .ok none

def checkText (d : Data) : Checked String := do
  match ← textOf? .stringUnicode d with
  | some s => return s
  | none => .fail .stringType

/-- White space at the ends of numbers. -/
def isOuterBlank (c : Char) : Bool := isBlank c && !(28 ≤ c.toNat && c.toNat ≤ 31)

def trimOuter (s : List Char) : List Char :=
  ((s.dropWhile isOuterBlank).reverse.dropWhile isOuterBlank).reverse

/-- A text of seven-bit characters without its single underscores, if all of them are inside. -/
def withoutUnderscores? (s : List Char) : Option (List Char) :=
  let doubled := (s.zip (s.drop 1)).any fun (a, b) => a = '_' && b = '_'
  if doubled || s.head? = some '_' || s.getLast? = some '_' then none else some (s.filter (· ≠ '_'))

def withoutZeros (s : List Char) : List Char :=
  match s.dropWhile (· ≠ '.') with
  | '.' :: r => if r.all (· = '0') then s.takeWhile (· ≠ '.') else s
  | _ => s

def plainInt? (s : List Char) : Option Int :=
  let (negative, ds) := match s with
    | '-' :: r => (true, r)
    | '+' :: r => (false, r)
    | r => (false, r)
  if ds.isEmpty || !ds.all Char.isDigit then none
  else
    let n := ofDigits (ds.map fun c => c.toNat - 48)
    some (if negative then -(n : Int) else n)

def intOfText (s : List Char) : Checked Int :=
  let s := trimOuter s
  if digitLimit < s.length then .fail .intParsingSize
  else match (withoutUnderscores? (withoutZeros s)).bind plainInt? with
    | some n => .ok n
    | none => .fail .intParsing

def intBound : Float := 9223372036854775808.0

def intOfFloat (x : Float) : Checked Int :=
  match Parts.ofFloat x with
  | .finite negative m e =>
    let (num, den) := fraction m e
    if num % den ≠ 0 then .fail .intFromFloat
    else if -intBound < x && x < intBound then
      .ok (if negative then -(num / den : Nat) else (num / den : Nat))
    else .fail .intParsingSize
  | _ => .fail .finiteNumber

def checkInt (d : Data) : Checked Int := do
  match d with
  | .int n => return n
  | .bool b => return if b then 1 else 0
  | .float x => intOfFloat x
  | d =>
    match ← textOf? .intParsing d with
    | some s => intOfText s.toList
    | none => .fail .intType

def floatOfText (s : List Char) : Checked Float :=
  if s.any fun c => 128 ≤ c.toNat && !isOuterBlank c then .fail .floatParsing
  else
    let t := if s.contains '_' then withoutUnderscores? s else some (trimOuter s)
    match t.bind fun t => if t.any isBlank then none else float? t with
    | some x => .ok x
    | none => .fail .floatParsing

def checkFloat (d : Data) : Checked Float := do
  match d with
  | .float x => return x
  | .bool b => return if b then 1.0 else 0.0
  | .int n =>
    let x := Data.floatOfInt n
    if x.isInf then .fail .floatType else return x
  | d =>
    match ← textOf? .floatParsing d with
    | some s => floatOfText s.toList
    | none => .fail .floatType

def boolOfText (s : String) : Checked Bool :=
  let word := String.ofList (s.toList.map fun c => if c.toNat < 128 then c.toLower else c)
  if ["1", "t", "y", "on", "yes", "true"].contains word then .ok true
  else if ["0", "f", "n", "off", "no", "false"].contains word then .ok false
  else .fail .boolParsing

def boolOfInt (n : Int) : Checked Bool :=
  if n = 0 then .ok false else if n = 1 then .ok true else .fail .boolParsing

def checkBool (d : Data) : Checked Bool := do
  match d with
  | .bool b => return b
  | .int n => if n.natAbs < Nat.pow 2 63 then boolOfInt n else .fail .boolType
  | .float x =>
    match intOfFloat x with
    | .ok n => boolOfInt n
    | .error _ => .fail .boolType
  | d =>
    match ← textOf? .boolParsing d with
    | some s => boolOfText s
    | none => .fail .boolType

def checkList (d : Data) : Checked (List Data) :=
  match d with
  | .list xs => .ok xs
  | .set xs => .ok xs
  | _ => .fail .listType

def checkItems {α : Type} (item : Data → Checked α) (d : Data) : Checked (List α) := do
  let xs ← checkList d
  .all (xs.mapIdx fun i x => (item x).below (.index i))

def checkName {α : Type} (ofText? : String → Option α) (d : Data) : Checked α :=
  match d.asText?.bind ofText? with
  | some a => .ok a
  | none => .fail .literal

/-! ## 3. Mappings -/

def checkModel (d : Data) : Checked (List (Data × Data)) :=
  match d with
  | .map es => .ok es
  | _ => .fail .modelType

def stepOfKey : Data → PlaceStep
  | .text s => .key s
  | .int n => if n.natAbs < Nat.pow 2 63 then .index n else .key (Data.intText n)
  | .bool b => .index (if b then 1 else 0)
  | d => .key d.shown

def checkKnownKeys (known : List String) (es : List (Data × Data)) : Checked Unit :=
  let issues := es.filterMap fun (k, _) =>
    match k with
    | .text s => if known.contains s then none else some { place := [.key s], kind := .extra : Issue }
    | k => some { place := [stepOfKey k], kind := .invalidKey }
  if issues.isEmpty then .ok () else .error issues

def checkField {α : Type} (es : List (Data × Data)) (key : String) (default : α)
    (check : Data → Checked α) : Checked α :=
  match Data.field? es key with
  | none => .ok default
  | some d => (check d).below (.key key)

def checkNeeded {α : Type} (es : List (Data × Data)) (key : String) (check : Data → Checked α) :
    Checked α :=
  ((match Data.field? es key with
    | none => .fail .missing
    | some d => check d) : Checked α).below (.key key)

end Grading
