import Grading.Text.Ranges

/-!
# Digit — decimal digits of any script

Every script's digits stand in runs that begin with its zero, so the value of a digit is its
offset in the run, modulo ten.
-/

namespace Grading.Text

/-- Decimal digits past the seven-bit ones; each run begins with a zero. -/
def digitRanges : Array (Nat × Nat) := #[
  (1632, 1641), (1776, 1785), (1984, 1993), (2406, 2415), (2534, 2543), (2662, 2671),
  (2790, 2799), (2918, 2927), (3046, 3055), (3174, 3183), (3302, 3311), (3430, 3439),
  (3558, 3567), (3664, 3673), (3792, 3801), (3872, 3881), (4160, 4169), (4240, 4249),
  (6112, 6121), (6160, 6169), (6470, 6479), (6608, 6617), (6784, 6793), (6800, 6809),
  (6992, 7001), (7088, 7097), (7232, 7241), (7248, 7257), (42528, 42537), (43216, 43225),
  (43264, 43273), (43472, 43481), (43504, 43513), (43600, 43609), (44016, 44025), (65296, 65305),
  (66720, 66729), (68912, 68921), (69734, 69743), (69872, 69881), (69942, 69951), (70096, 70105),
  (70384, 70393), (70736, 70745), (70864, 70873), (71248, 71257), (71360, 71369), (71472, 71481),
  (71904, 71913), (72016, 72025), (72784, 72793), (73040, 73049), (73120, 73129), (92768, 92777),
  (92864, 92873), (93008, 93017), (120782, 120831), (123200, 123209), (123632, 123641),
  (125264, 125273), (130032, 130041)]

def digitValue? (c : Char) : Option Nat :=
  if c.toNat < 128 then
    if '0' ≤ c && c ≤ '9' then some (c.toNat - 48) else none
  else (rangeOf? digitRanges c.toNat).map fun r => (c.toNat - r.1) % 10

def isDigit (c : Char) : Bool := (digitValue? c).isSome

/-! Numbers are read and written up to a limit of digits. -/

def digitLimit : Nat := 4300

structure NumberTooLong where
  digits : Nat
  deriving DecidableEq, Repr, Inhabited

def NumberTooLong.text (e : NumberTooLong) : String :=
  "Exceeds the limit (" ++ Nat.repr digitLimit ++ " digits) for integer string conversion: value has " ++
    Nat.repr e.digits ++ " digits; use sys.set_int_max_str_digits() to increase the limit"

def isTooLongToWrite (n : Nat) : Bool := Nat.pow 10 digitLimit ≤ n

def tooLongToWrite : String :=
  "Exceeds the limit (" ++ Nat.repr digitLimit ++
    " digits) for integer string conversion; use sys.set_int_max_str_digits() to increase the limit"

def numberOf (ds : List Char) : Except NumberTooLong Nat :=
  if digitLimit < ds.length then .error ⟨ds.length⟩
  else .ok (ds.foldl (fun n c => 10 * n + (digitValue? c).getD 0) 0)

end Grading.Text
