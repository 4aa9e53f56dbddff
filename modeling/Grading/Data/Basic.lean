/-!
# Data — values of documents

The values that rule files, configuration files and reports are made of. A mapping keeps its entries
in the order in which their keys first came, and any scalar can be a key.
-/

namespace Grading

structure Moment where
  year : Nat
  month : Nat
  day : Nat
  hour : Nat
  minute : Nat
  second : Nat
  microsecond : Nat
  /-- Minutes east of Greenwich, if the zone is known. -/
  zone : Option Int
  deriving DecidableEq, Repr, Inhabited

/-- The number of a day, counted from the first of March of the year zero. -/
def dayNumber (year month day : Nat) : Int :=
  let y : Int := if month ≤ 2 then year - 1 else year
  let m := (month + 9) % 12
  365 * y + y / 4 - y / 100 + y / 400 + ((153 * m + 2) / 5 + day - 1 : Nat)

/-- The number of microseconds of a moment whose zone is so many minutes east of Greenwich. -/
def Moment.instant (m : Moment) (zone : Int) : Int :=
  let minutes := (dayNumber m.year m.month m.day * 24 + m.hour) * 60 + m.minute - zone
  (minutes * 60 + m.second) * 1000000 + m.microsecond

/-- The instants of two moments that can be compared: the zones of both are known, or of neither. -/
def Moment.instants? (a b : Moment) : Option (Int × Int) :=
  match a.zone, b.zone with
  | none, none => some (a.instant 0, b.instant 0)
  | some z, some z' => some (a.instant z, b.instant z')
  | _, _ => none

inductive Data where
  | null
  | bool (b : Bool)
  | int (n : Int)
  | float (x : Float)
  | text (s : String)
  | date (year month day : Nat)
  | moment (m : Moment)
  | bytes (bs : List UInt8)
  | list (xs : List Data)
  | pair (a b : Data)
  | set (xs : List Data)
  | map (entries : List (Data × Data))
  deriving Inhabited

namespace Data

/-! ## 1. Kinds -/

def kindName : Data → String
  | .null => "NoneType"
  | .bool _ => "bool"
  | .int _ => "int"
  | .float _ => "float"
  | .text _ => "str"
  | .date .. => "date"
  | .moment _ => "datetime"
  | .bytes _ => "bytes"
  | .list _ => "list"
  | .pair .. => "tuple"
  | .set _ => "set"
  | .map _ => "dict"

/-- Whether a value counts as true: not absent, zero or empty. -/
def truthy : Data → Bool
  | .null => false
  | .bool b => b
  | .int n => n ≠ 0
  | .float x => !(x == 0)
  | .text s => !s.isEmpty
  | .date .. => true
  | .moment _ => true
  | .bytes bs => !bs.isEmpty
  | .list xs => !xs.isEmpty
  | .pair .. => true
  | .set xs => !xs.isEmpty
  | .map es => !es.isEmpty

def asText? : Data → Option String
  | .text s => some s
  | _ => none

def asList? : Data → Option (List Data)
  | .list xs => some xs
  | _ => none

/-! ## 2. Equality

Numbers are equal by value, whatever their kind, and truth values count as zero and one. Every value
is equal to itself. -/

def floatOfInt (n : Int) : Float := .ofInt n

mutual
def beq : Data → Data → Bool
  | .null, .null => true
  | .bool a, .bool b => a == b
  | .bool a, .int b => (if a then 1 else 0) == b
  | .int a, .bool b => a == (if b then 1 else 0)
  | .bool a, .float b => (if a then 1 else 0) == b
  | .float a, .bool b => a == (if b then 1 else 0)
  | .int a, .int b => a == b
  | .int a, .float b => floatOfInt a == b
  | .float a, .int b => a == floatOfInt b
  | .float a, .float b => a == b || a.toBits == b.toBits
  | .text a, .text b => a == b
  | .date y m d, .date y' m' d' => y == y' && m == m' && d == d'
  | .moment a, .moment b => (a.instants? b).any fun (i, j) => i == j
  | .bytes a, .bytes b => a == b
  | .list a, .list b => beqList a b
  | .pair a b, .pair c d => beq a c && beq b d
  | .set a, .set b => a.length == b.length && subset a b
  | .map a, .map b => a.length == b.length && submap a b
  | _, _ => false

def beqList : List Data → List Data → Bool
  | [], [] => true
  | a :: as, b :: bs => beq a b && beqList as bs
  | _, _ => false

def subset : List Data → List Data → Bool
  | [], _ => true
  | a :: as, bs => bs.any (fun b => beq a b) && subset as bs

def submap : List (Data × Data) → List (Data × Data) → Bool
  | [], _ => true
  | (k, v) :: es, bs => bs.any (fun e => beq k e.1 && beq v e.2) && submap es bs
end

instance : BEq Data := ⟨beq⟩

/-! ## 3. Mappings -/

def object (es : List (String × Data)) : Data := .map (es.map fun e => (.text e.1, e.2))

def lookup (es : List (Data × Data)) (key : Data) : Option Data :=
  (es.find? fun e => e.1 == key).map (·.2)

def field? (es : List (Data × Data)) (key : String) : Option Data :=
  (es.find? fun e => match e.1 with
    | .text k => k == key
    | _ => false).map (·.2)

def field (es : List (Data × Data)) (key : String) : Data := (field? es key).getD .null

def insert (es : List (Data × Data)) (key value : Data) : List (Data × Data) :=
  if es.any (fun e => e.1 == key) then
    es.map fun e => if e.1 == key then (e.1, value) else e
  else es ++ [(key, value)]

/-- The kind of the first list, set or mapping in a value, which therefore can be no key. -/
def mutableKind? : Data → Option String
  | .list _ => some "list"
  | .set _ => some "set"
  | .map _ => some "dict"
  | .pair a b => a.mutableKind?.or b.mutableKind?
  | _ => none

def isScalar (d : Data) : Bool := d.mutableKind?.isNone

end Data

end Grading
