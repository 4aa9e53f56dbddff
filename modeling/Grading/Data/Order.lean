import Grading.Data.Show

/-!
# Order — sorting values

Numbers are ordered by value, texts and bytes by their characters, dates and moments by time. Values
of other kinds, and values of different kinds, have no order; neither have two moments if the zone of
just one is known.
-/

namespace Grading.Data

def number? : Data → Option (Int ⊕ Float)
  | .bool b => some (.inl (if b then 1 else 0))
  | .int n => some (.inl n)
  | .float x => some (.inr x)
  | _ => none

def lessNumber : Int ⊕ Float → Int ⊕ Float → Bool
  | .inl a, .inl b => a < b
  | .inl a, .inr b => floatOfInt a < b
  | .inr a, .inl b => a < floatOfInt b
  | .inr a, .inr b => a < b

def lessNats : List Nat → List Nat → Bool
  | _, [] => false
  | [], _ :: _ => true
  | a :: as, b :: bs => a < b || (a == b && lessNats as bs)

/-- Whether one value is less than another; nothing if they have no order. -/
def less? : Data → Data → Option Bool
  | .text a, .text b => some (a < b)
  | .bytes a, .bytes b => some (lessNats (a.map UInt8.toNat) (b.map UInt8.toNat))
  | .date y m d, .date y' m' d' => some (lessNats [y, m, d] [y', m', d'])
  | .moment a, .moment b => (a.instants? b).map fun (i, j) => i < j
  | a, b =>
    match a.number?, b.number? with
    | some x, some y => some (lessNumber x y)
    | _, _ => none

def orderKindName : Data → String
  | .date .. => "datetime.date"
  | .moment _ => "datetime.datetime"
  | d => d.kindName

def unorderedText : Data → Data → String
  | .date .., .moment _ => "can't compare datetime.datetime to datetime.date"
  | .moment _, .date .. => "can't compare datetime.datetime to datetime.date"
  | .moment _, .moment _ => "can't compare offset-naive and offset-aware datetimes"
  | a, b =>
    "'<' not supported between instances of '" ++ a.orderKindName ++ "' and '" ++ b.orderKindName ++
      "'"

/-- The first neighbours in a list that have no order, the later one first. -/
def unordered? : List Data → Option (Data × Data)
  | a :: b :: r => if (less? b a).isNone then some (b, a) else unordered? (b :: r)
  | _ => none

def insertSorted (a : Data) : List Data → List Data
  | [] => [a]
  | b :: r => if less? a b = some true then a :: b :: r else b :: insertSorted a r

def sort (xs : List Data) : Except (Data × Data) (List Data) :=
  match unordered? xs with
  | some p => .error p
  | none => .ok (xs.foldl (fun sorted a => insertSorted a sorted) [])

end Grading.Data
