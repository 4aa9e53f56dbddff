import Grading.Decimal.Binary

/-!
# Shortest — the fewest digits that read back

A floating-point number stands for all reals that round to it. `shortest` gives the decimal with the
fewest digits among them, and of those the nearest to the number.
-/

namespace Grading.Decimal

/-- The number `digits * 10 ^ exponent`, where `digits` has `count` digits. -/
structure Scientific where
  digits : Nat
  count : Nat
  exponent : Int
  deriving DecidableEq, Repr, Inhabited

/-- The largest `k` with `10 ^ k ≤ num / den`, searched upward from the given one. -/
def magnitudeUp (num den : Nat) : Nat → Nat → Nat
  | 0, k => k
  | fuel + 1, k => if den * Nat.pow 10 (k + 1) ≤ num then magnitudeUp num den fuel (k + 1) else k

/-- The least `k` with `1 ≤ num * 10 ^ k / den`, searched upward from the given one. -/
def magnitudeDown (num den : Nat) : Nat → Nat → Nat
  | 0, k => k
  | fuel + 1, k => if den ≤ num * Nat.pow 10 k then k else magnitudeDown num den fuel (k + 1)

def magnitude (num den : Nat) : Int :=
  if den ≤ num then
    let guess := (num / den).log2 * 3 / 10
    magnitudeUp num den 400 guess
  else
    let guess := (den / num).log2 * 3 / 10
    Int.negOfNat (magnitudeDown num den 400 guess)

/-- The reals that round to a number, as multiples of `1 / den`, with the number itself. -/
structure Interval where
  low : Nat
  value : Nat
  high : Nat
  den : Nat
  /-- Whether the ends round to the number too. -/
  closed : Bool

def Interval.around (mantissa : Nat) (exponent : Int) : Interval :=
  -- below a power of two the neighbour is half as far
  let narrow := mantissa = Nat.pow 2 52 && -1074 < exponent
  let (num, den) := fraction (4 * mantissa) (exponent - 2)
  let (unit, _) := fraction 1 (exponent - 2)
  { low := num - (if narrow then 1 else 2) * unit, value := num, high := num + 2 * unit, den,
    closed := mantissa % 2 = 0 }

def Interval.holds (i : Interval) (digits : Nat) (exponent : Int) : Bool :=
  let scaled := if exponent < 0 then digits else digits * Nat.pow 10 exponent.toNat
  let unit := if exponent < 0 then Nat.pow 10 exponent.natAbs else 1
  let x := scaled * i.den
  if i.closed then i.low * unit ≤ x && x ≤ i.high * unit else i.low * unit < x && x < i.high * unit

def Interval.onGrid (i : Interval) (exponent : Int) : Nat × Nat :=
  if exponent < 0 then (i.value * Nat.pow 10 exponent.natAbs, i.den)
  else (i.value, i.den * Nat.pow 10 exponent.toNat)

/-- The shortest decimal among those with at least `count` digits. -/
def shortestFrom (i : Interval) (k : Int) : Nat → Nat → Scientific
  | 0, count =>
    let e := k - (count - 1 : Int)
    let (num, den) := i.onGrid e
    ⟨roundHalfEven num den, count, e⟩
  | fuel + 1, count =>
    let e := k - (count - 1 : Int)
    let (num, den) := i.onGrid e
    let below := num / den
    let nearest := roundHalfEven num den
    let other := if nearest = below then below + 1 else below
    if i.holds nearest e then ⟨nearest, count, e⟩
    else if i.holds other e then ⟨other, count, e⟩
    else shortestFrom i k fuel (count + 1)

def Scientific.trim : Nat → Scientific → Scientific
  | 0, s => s
  | fuel + 1, s =>
    if s.digits % 10 = 0 && 10 ≤ s.digits then
      Scientific.trim fuel ⟨s.digits / 10, s.count - 1, s.exponent + 1⟩
    else s

/-- The shortest decimal that reads back as `mantissa * 2 ^ exponent`, for a positive mantissa. -/
def shortest (mantissa : Nat) (exponent : Int) : Scientific :=
  let (num, den) := fraction mantissa exponent
  let s := shortestFrom (.around mantissa exponent) (magnitude num den) 16 1
  -- rounding up may have carried into one more digit
  Scientific.trim 20 { s with count := (Nat.repr s.digits).length }

/-! ## Notation -/

/-- The notation of numbers: plain for exponents from -4 to 15, with at least one decimal, otherwise
with a signed exponent of at least two digits. -/
def Scientific.text (s : Scientific) : String :=
  let ds := Nat.repr s.digits
  let exponent := s.exponent + (s.count - 1 : Int)
  if exponent < -4 || 16 ≤ exponent then
    let mantissa := if ds.length = 1 then ds
      else String.ofList (ds.toList.take 1 ++ '.' :: ds.toList.drop 1)
    let e := Nat.repr exponent.natAbs
    mantissa ++ (if exponent < 0 then "e-" else "e+") ++ (if e.length < 2 then "0" ++ e else e)
  else if exponent < 0 then
    "0." ++ String.ofList (List.replicate (exponent.natAbs - 1) '0') ++ ds
  else
    let whole := exponent.toNat + 1
    if ds.length ≤ whole then ds ++ String.ofList (List.replicate (whole - ds.length) '0') ++ ".0"
    else String.ofList (ds.toList.take whole ++ '.' :: ds.toList.drop whole)

structure Spelling where
  nan : String
  infinity : String

def Spelling.text (sp : Spelling) (x : Float) : String :=
  match Parts.ofFloat x with
  | .nan => sp.nan
  | .infinite negative => (if negative then "-" else "") ++ sp.infinity
  | .finite negative mantissa exponent =>
    (if negative then "-" else "") ++
      (if mantissa = 0 then "0.0" else (shortest mantissa exponent).text)

def plainSpelling : Spelling := ⟨"nan", "inf"⟩

def floatText (x : Float) : String := plainSpelling.text x

end Grading.Decimal
