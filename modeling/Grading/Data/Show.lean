import Grading.Data.Basic
import Grading.Decimal.Shortest
import Grading.Text.Digit
import Grading.Text.Quoted

/-!
# Show — the text of a value

`shown` is the text of a value with its texts in quotes, as it stands inside a list; `plain` is the
text of a value on its own, in which a text stands as it is. A value that holds a number with too many
digits has neither.
-/

namespace Grading.Data

open Grading.Text Grading.Decimal

def padded (width n : Nat) : String :=
  let ds := Nat.repr n
  String.ofList (List.replicate (width - ds.length) '0') ++ ds

def intText (n : Int) : String := if n < 0 then "-" ++ Nat.repr n.natAbs else Nat.repr n.natAbs

def dateText (year month day : Nat) : String :=
  padded 4 year ++ "-" ++ padded 2 month ++ "-" ++ padded 2 day

def zoneText (minutes : Int) : String :=
  let n := minutes.natAbs
  (if minutes < 0 then "-" else "+") ++ padded 2 (n / 60) ++ ":" ++ padded 2 (n % 60)

/-- Date and time of day, with microseconds unless they are zero, and the zone if known. -/
def momentText (m : Moment) : String :=
  dateText m.year m.month m.day ++ " " ++ padded 2 m.hour ++ ":" ++ padded 2 m.minute ++ ":" ++
    padded 2 m.second ++ (if m.microsecond = 0 then "" else "." ++ padded 6 m.microsecond) ++
    (match m.zone with
      | none => ""
      | some z => zoneText z)

/-- The constructor of a duration of so many minutes, normalised to days and seconds. -/
def durationShown (minutes : Int) : String :=
  let seconds := minutes * 60
  let days := seconds.fdiv 86400
  let rest := seconds.fmod 86400
  let parts := (if days = 0 then [] else ["days=" ++ intText days]) ++
    (if rest = 0 then [] else ["seconds=" ++ intText rest])
  "datetime.timedelta(" ++ (if parts.isEmpty then "0" else ", ".intercalate parts) ++ ")"

def zoneShown (minutes : Int) : String :=
  if minutes = 0 then "datetime.timezone.utc"
  else "datetime.timezone(" ++ durationShown minutes ++ ")"

def momentShown (m : Moment) : String :=
  let numbers := [m.year, m.month, m.day, m.hour, m.minute] ++
    (if m.microsecond ≠ 0 then [m.second, m.microsecond]
     else if m.second ≠ 0 then [m.second] else [])
  "datetime.datetime(" ++ ", ".intercalate (numbers.map Nat.repr) ++
    (match m.zone with
      | none => ""
      | some z => ", tzinfo=" ++ zoneShown z) ++ ")"

def quotedByte (quote : Char) (b : UInt8) : List Char :=
  let n := b.toNat
  if n < 128 then
    let c := Char.ofNat n
    if 32 ≤ n && n < 127 && c ≠ quote && c ≠ '\\' then [c]
    else if c = quote || c = '\\' then ['\\', c]
    else if c = '\n' then ['\\', 'n']
    else if c = '\r' then ['\\', 'r']
    else if c = '\t' then ['\\', 't']
    else hexEscape n
  else hexEscape n

def bytesShown (bs : List UInt8) : String :=
  let q := quoteFor (bs.map fun b => Char.ofNat b.toNat)
  String.ofList ('b' :: q :: (bs.flatMap (quotedByte q) ++ [q]))

mutual
def shown : Data → String
  | .null => "None"
  | .bool b => if b then "True" else "False"
  | .int n => intText n
  | .float x => floatText x
  | .text s => quoted s
  | .date y m d =>
    "datetime.date(" ++ Nat.repr y ++ ", " ++ Nat.repr m ++ ", " ++ Nat.repr d ++ ")"
  | .moment m => momentShown m
  | .bytes bs => bytesShown bs
  | .list xs => "[" ++ ", ".intercalate (shownList xs) ++ "]"
  | .pair a b => "(" ++ shown a ++ ", " ++ shown b ++ ")"
  | .set xs => if xs.isEmpty then "set()" else "\x7b" ++ ", ".intercalate (shownList xs) ++ "\x7d"
  | .map es => "\x7b" ++ ", ".intercalate (shownEntries es) ++ "\x7d"

def shownList : List Data → List String
  | [] => []
  | x :: xs => shown x :: shownList xs

def shownEntries : List (Data × Data) → List String
  | [] => []
  | (k, v) :: es => (shown k ++ ": " ++ shown v) :: shownEntries es
end

def plain : Data → String
  | .text s => s
  | .date y m d => dateText y m d
  | .moment m => momentText m
  | d => d.shown

mutual
/-- Whether a value holds a number with too many digits to be written. -/
def isTooLong : Data → Bool
  | .int n => isTooLongToWrite n.natAbs
  | .list xs => isTooLongList xs
  | .pair a b => isTooLong a || isTooLong b
  | .set xs => isTooLongList xs
  | .map es => isTooLongEntries es
  | _ => false

def isTooLongList : List Data → Bool
  | [] => false
  | x :: xs => isTooLong x || isTooLongList xs

def isTooLongEntries : List (Data × Data) → Bool
  | [] => false
  | (k, v) :: es => isTooLong k || isTooLong v || isTooLongEntries es
end

end Grading.Data
