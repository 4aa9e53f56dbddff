import Grading.Decimal.Binary

/-!
# Fixed — a fixed number of decimals

A number is rounded to the nearest multiple of the last decimal; an exact half goes to the even
neighbour.
-/

namespace Grading.Decimal

/-- A natural number of units of `10 ^ (-places)`. -/
def unitsText (places units : Nat) : String :=
  if places = 0 then Nat.repr units
  else
    let ds := (Nat.repr units).toList
    let ds := List.replicate (places + 1 - ds.length) '0' ++ ds
    let whole := ds.length - places
    String.ofList (ds.take whole ++ '.' :: ds.drop whole)

def fixedText (places : Nat) (x : Float) : String :=
  match Parts.ofFloat x with
  | .nan => "nan"
  | .infinite negative => (if negative then "-" else "") ++ "inf"
  | .finite negative mantissa exponent =>
    let (num, den) := fraction mantissa exponent
    (if negative then "-" else "") ++ unitsText places (roundHalfEven (num * Nat.pow 10 places) den)

end Grading.Decimal
