import Grading.Data.Show
import Grading.Decimal.Read
import Grading.Text.Case
import Grading.Text.Integer
import Grading.Text.Lines
import Grading.Yaml.Node

/-!
# Value — what the nodes of a document stand for

The text of a plain scalar decides whether it is a number, a truth value, a date or just a text. A
mapping may take entries from others; its own come after them and win.
-/

namespace Grading.Yaml

open Grading.Text Grading.Decimal

/-! ## 1. Kinds of scalars -/

inductive Kind where
  | null
  | bool
  | int
  | float
  | timestamp
  | text
  | binary
  | merge
  | value
  | list
  | map
  | set
  | orderedMap
  | pairs
  deriving DecidableEq, Repr, Inhabited

def kindNames : List (String × Kind) :=
  [("null", .null), ("bool", .bool), ("int", .int), ("float", .float), ("timestamp", .timestamp),
    ("str", .text), ("binary", .binary), ("merge", .merge), ("value", .value), ("seq", .list),
    ("map", .map), ("set", .set), ("omap", .orderedMap), ("pairs", .pairs)]

def Kind.ofTag? (tag : String) : Option Kind :=
  (kindNames.find? fun e => Reading.commonTag ++ e.1 = tag).map (·.2)

def isPlainDigit (c : Char) : Bool := '0' ≤ c && c ≤ '9'

def isSpacedDigit (c : Char) : Bool := isPlainDigit c || c = '_'

def dropSign : List Char → List Char
  | '-' :: r => r
  | '+' :: r => r
  | s => s

def isSixtieth (s : List Char) : Bool :=
  match s with
  | [c] => isPlainDigit c
  | [a, b] => '0' ≤ a && a ≤ '5' && isPlainDigit b
  | _ => false

def isUnsignedInt (s : List Char) : Bool :=
  match s with
  | '0' :: 'b' :: r => !r.isEmpty && r.all fun c => c = '0' || c = '1' || c = '_'
  | '0' :: 'x' :: r => !r.isEmpty && r.all fun c => (hexValue? c).isSome || c = '_'
  | ['0'] => true
  | '0' :: r => r.all fun c => ('0' ≤ c && c ≤ '7') || c = '_'
  | c :: r =>
    isPlainDigit c &&
      match Text.splitAt ':' r with
      | first :: parts => first.all isSpacedDigit && parts.all isSixtieth
      | [] => false
  | [] => false

def isInt (s : List Char) : Bool := isUnsignedInt (dropSign s)

def isExponent (s : List Char) : Bool :=
  match s with
  | [] => true
  | e :: sign :: d :: r =>
    (e = 'e' || e = 'E') && (sign = '-' || sign = '+') && isPlainDigit d && r.all isPlainDigit
  | _ => false

def isPointed (s : List Char) : Bool :=
  match s with
  | c :: r =>
    isPlainDigit c &&
      (let tail := r.dropWhile isSpacedDigit
       match tail with
       | '.' :: t => isExponent (t.dropWhile isSpacedDigit)
       | ':' :: _ =>
         match tail.dropWhile fun c => isPlainDigit c || c = ':' with
         | '.' :: t =>
           t.all isSpacedDigit &&
             ((Text.splitAt ':' ((tail.takeWhile fun c => isPlainDigit c || c = ':').drop 1)).all isSixtieth)
         | _ => false
       | _ => false)
  | [] => false

def isFloat (s : List Char) : Bool :=
  match s with
  | '.' :: c :: r =>
    (isPlainDigit c && isExponent (r.dropWhile isSpacedDigit)) ||
      [".inf", ".Inf", ".INF", ".nan", ".NaN", ".NAN"].contains (String.ofList s)
  | s =>
    isPointed (dropSign s) || [".inf", ".Inf", ".INF"].contains (String.ofList (dropSign s))

def isBool (s : List Char) : Bool :=
  ["yes", "Yes", "YES", "no", "No", "NO", "true", "True", "TRUE", "false", "False", "FALSE", "on", "On",
    "ON", "off", "Off", "OFF"].contains (String.ofList s)

def isNull (s : List Char) : Bool := ["", "~", "null", "Null", "NULL"].contains (String.ofList s)

/-! ## 2. Dates -/

def someDigits (low high : Nat) (s : List Char) : Option (Nat × List Char) :=
  let ds := (s.takeWhile isPlainDigit).take high
  if ds.length < low then none
  else some (ofDigits (ds.map fun c => c.toNat - 48), s.drop ds.length)

def afterChar (c : Char) : List Char → Option (List Char)
  | [] => none
  | d :: r => if d = c then some r else none

structure Stamp where
  year : Nat
  month : Nat
  day : Nat
  /-- Hour, minute, second and digits of the fraction. -/
  time : Option (Nat × Nat × Nat × List Char) := none
  /-- Minutes east of Greenwich. -/
  zone : Option Int := none
  deriving Repr, Inhabited

def stampZone (s : List Char) : Option (Option Int) := do
  match s.dropWhile fun c => c = ' ' || c = '\t' with
  | [] => if s.isEmpty then some none else none
  | ['Z'] => return some 0
  | sign :: r =>
    if sign ≠ '-' && sign ≠ '+' then none
    let (hours, r) ← someDigits 1 2 r
    let minutes ← match r with
      | [] => some 0
      | ':' :: r =>
        match someDigits 2 2 r with
        | some (m, []) => some m
        | _ => none
      | _ => none
    let n : Int := 60 * hours + minutes
    return some (if sign = '-' then -n else n)

/-- The date that a text is, with the time of day if there is one. Without it, month and day have two
digits unless `loose`. -/
def stamp? (loose : Bool) (s : List Char) : Option Stamp := do
  let (year, r) ← someDigits 4 4 s
  let (month, r) ← someDigits 1 2 (← afterChar '-' r)
  let (day, r) ← someDigits 1 2 (← afterChar '-' r)
  match r with
  | [] => if loose || s.length = 10 then some { year, month, day } else none
  | c :: t =>
    let r ← if c = 'T' || c = 't' then some t
      else if c = ' ' || c = '\t' then some (t.dropWhile fun c => c = ' ' || c = '\t')
      else none
    let (hour, r) ← someDigits 1 2 r
    let (minute, r) ← someDigits 2 2 (← afterChar ':' r)
    let (second, r) ← someDigits 2 2 (← afterChar ':' r)
    let (fraction, r) := match r with
      | '.' :: r => (r.takeWhile isPlainDigit, r.dropWhile isPlainDigit)
      | r => ([], r)
    return { year, month, day, time := some (hour, minute, second, fraction), zone := ← stampZone r }

def isLeapYear (y : Nat) : Bool := y % 4 = 0 && (y % 100 ≠ 0 || y % 400 = 0)

def daysOf (year month : Nat) : Nat :=
  if month = 2 then (if isLeapYear year then 29 else 28)
  else if [4, 6, 9, 11].contains month then 30
  else 31

def valueError (text : String) : Defect := .value ⟨"ValueError", text⟩

def refuse (wrong : Bool) (text : String) : Except Defect Unit :=
  if wrong then .error (valueError text) else .ok ()

def Stamp.toData (s : Stamp) : Except Defect Data := do
  let zone := s.zone.getD 0
  refuse (1440 ≤ zone.natAbs) ("offset must be a timedelta strictly between -timedelta(hours=24) and " ++
    "timedelta(hours=24), not " ++ Data.durationShown zone ++ ".")
  refuse (s.year = 0) "year 0 is out of range"
  refuse (s.month = 0 || 12 < s.month) "month must be in 1..12"
  refuse (s.day = 0 || daysOf s.year s.month < s.day) "day is out of range for month"
  match s.time with
  | none => return .date s.year s.month s.day
  | some (hour, minute, second, fraction) =>
    refuse (23 < hour) "hour must be in 0..23"
    refuse (59 < minute) "minute must be in 0..59"
    refuse (59 < second) "second must be in 0..59"
    let micro := (fraction ++ List.replicate 6 '0').take 6
    return .moment { year := s.year, month := s.month, day := s.day, hour, minute, second,
                     microsecond := ofDigits (micro.map fun c => c.toNat - 48), zone := s.zone }

/-! ## 3. Scalars -/

def plainKind (s : List Char) : Kind :=
  if isBool s then .bool
  else if isFloat s then .float
  else if isInt s then .int
  else if s = ['<', '<'] then .merge
  else if isNull s then .null
  else if (stamp? false s).isSome then .timestamp
  else if s = ['='] then .value
  else .text

def integerDefect (base : Nat) (s : List Char) : IntegerError → Defect
  | .invalid => valueError ("invalid literal for int() with base " ++ Nat.repr base ++ ": " ++
      quoted (String.ofList s))
  | .tooLong e => valueError e.text

def readBase (base : Nat) (s : List Char) : Except Defect Int :=
  (readInteger base s).mapError (integerDefect base s)

def sixties (parts : List Int) : Int := parts.foldl (fun n p => 60 * n + p) 0

def intValue (s : List Char) : Except Defect Int := do
  let s := s.filter (· ≠ '_')
  if s.isEmpty then throw (.value ⟨"IndexError", "string index out of range"⟩)
  let sign : Int := if s.head? = some '-' then -1 else 1
  match dropSign s with
  | [] => throw (.value ⟨"IndexError", "string index out of range"⟩)
  | ['0'] => return 0
  | '0' :: 'b' :: r => return sign * (← readBase 2 r)
  | '0' :: 'x' :: r => return sign * (← readBase 16 r)
  | '0' :: r => return sign * (← readBase 8 ('0' :: r))
  | r =>
    if r.contains ':' then return sign * sixties (← (Text.splitAt ':' r).mapM (readBase 10))
    else return sign * (← readBase 10 r)

def readFloat (s : List Char) : Except Defect Float :=
  match float? s with
  | some x => .ok x
  | none => .error (valueError ("could not convert string to float: " ++ quoted (String.ofList s)))

/-- The value of digits to the base sixty, the last one first; `base` is the power of sixty that the next
one counts. -/
def sixtiesFloat (x : Float) (base : Nat) : List Float → Except Defect Float
  | [] => .ok x
  | p :: ps =>
    if Nat.pow 2 1024 - Nat.pow 2 970 ≤ base then
      .error (.value ⟨"OverflowError", "int too large to convert to float"⟩)
    else sixtiesFloat (x + p * Data.floatOfInt base) (base * 60) ps

def floatValue (s : List Char) : Except Defect Float := do
  let s := (s.filter (· ≠ '_')).map fun c => if c.toNat < 128 then c.toLower else c
  if s.isEmpty then throw (.value ⟨"IndexError", "string index out of range"⟩)
  let signed (x : Float) : Float := if s.head? = some '-' then -x else x
  let r := dropSign s
  if r = ".inf".toList then return signed (1.0 / 0.0)
  if r = ".nan".toList then return 0.0 / 0.0
  if r.contains ':' then
    let parts ← (Text.splitAt ':' r).mapM readFloat
    return signed (← sixtiesFloat 0.0 1 parts.reverse)
  return signed (← readFloat r)

def boolValue (s : List Char) : Except Defect Bool :=
  let word := String.ofList (lower s)
  if ["yes", "true", "on"].contains word then .ok true
  else if ["no", "false", "off"].contains word then .ok false
  else .error (.value ⟨"KeyError", quoted word⟩)

def sixBits? (c : Char) : Option Nat :=
  if 'A' ≤ c && c ≤ 'Z' then some (c.toNat - 65)
  else if 'a' ≤ c && c ≤ 'z' then some (c.toNat - 71)
  else if isPlainDigit c then some (c.toNat + 4)
  else if c = '+' then some 62
  else if c = '/' then some 63
  else none

/-- The bytes of a text of sixty-four signs: `count` signs of a group of four were read and make
`value`, and `pads` signs of padding followed. Other characters do not count. -/
def sixtyFour (count value pads : Nat) : List Char → Option (List UInt8)
  | [] => if count = 0 then some [] else none
  | c :: r =>
    if c = '=' then
      if 2 ≤ count && 4 ≤ count + pads + 1 then some [] else sixtyFour count value (pads + 1) r
    else match sixBits? c with
      | none => sixtyFour count value pads r
      | some b =>
        match count with
        | 0 => sixtyFour 1 b 0 r
        | 1 => (sixtyFour 2 (b % 16) 0 r).map ((value * 4 + b / 16).toUInt8 :: ·)
        | 2 => (sixtyFour 3 (b % 4) 0 r).map ((value * 16 + b / 4).toUInt8 :: ·)
        | _ => (sixtyFour 0 0 0 r).map ((value * 64 + b).toUInt8 :: ·)

def scalarValue (kind : Kind) (s : List Char) : Except Defect Data := do
  match kind with
  | .null => return .null
  | .bool => return .bool (← boolValue s)
  | .int => return .int (← intValue s)
  | .float => return .float (← floatValue s)
  | .timestamp =>
    match stamp? true s with
    | some t => t.toData
    | none => throw (.value ⟨"AttributeError", "'NoneType' object has no attribute 'groupdict'"⟩)
  | .text => return .text (String.ofList s)
  | .binary =>
    if s.any fun c => 128 ≤ c.toNat then throw .nodeKind
    match sixtyFour 0 0 0 s with
    | some bytes => return .bytes bytes
    | none => throw .nodeKind
  | .merge => throw (.unknownTag "merge")
  | .value => throw (.unknownTag "value")
  | _ => throw .nodeKind

def kindOr (tag : Option String) (default : Kind) : Except Defect Kind :=
  match tag with
  | none => .ok default
  | some t =>
    match Kind.ofTag? t with
    | some k => .ok k
    | none => .error (.unknownTag t)

/-! ## 4. Nodes -/

def scalarKind (tag : Option String) (isPlain : Bool) (s : List Char) : Except Defect Kind :=
  kindOr tag (if isPlain then plainKind s else .text)

def Node.kind : Node → Except Defect Kind
  | .scalar tag isPlain s => scalarKind tag isPlain s
  | .sequence tag _ => kindOr tag .list
  | .mapping tag _ => kindOr tag .map

def Node.hasKind (n : Node) (kind : Kind) : Bool := n.kind.toOption = some kind

mutual
/-- The text of a scalar; a mapping counts as the scalar under its key of the kind `value`. -/
def Node.scalarText : Node → Except Defect (List Char)
  | .scalar _ _ s => .ok s
  | .sequence .. => .error .nodeKind
  | .mapping _ entries => Node.valueText entries

def Node.valueText : List (Node × Node) → Except Defect (List Char)
  | [] => .error .nodeKind
  | (k, v) :: es => if k.hasKind .value then v.scalarText else Node.valueText es
end

/-- A mapping made of entries; of a key that comes twice the last value counts. -/
def mapOf (es : List (Data × Data)) : List (Data × Data) :=
  es.foldl (fun m e => Data.insert m e.1 e.2) []

mutual
def Node.toData : Node → Except Defect Data
  | .scalar tag isPlain s => do scalarValue (← scalarKind tag isPlain s) s
  | .sequence tag items => do
    match ← kindOr tag .list with
    | .list => return .list (← Node.listData items)
    | .orderedMap => return .list (← Node.pairData items)
    | .pairs => return .list (← Node.pairData items)
    | _ => throw .nodeKind
  | .mapping tag entries => do
    match ← kindOr tag .map with
    | .map =>
      let (merged, own) ← Node.entryData entries
      return .map (mapOf (merged ++ own))
    | .set =>
      let (merged, own) ← Node.entryData entries
      return .set ((mapOf (merged ++ own)).map (·.1))
    | .timestamp =>
      -- The entries themselves are searched for a date.
      let _ ← Node.valueText entries
      throw (.value ⟨"TypeError", "expected string or bytes-like object, got 'list'"⟩)
    | kind => scalarValue kind (← Node.valueText entries)

def Node.listData : List Node → Except Defect (List Data)
  | [] => return []
  | n :: ns => do return (← Node.toData n) :: (← Node.listData ns)

def Node.pairData : List Node → Except Defect (List Data)
  | [] => return []
  | .mapping _ [(k, v)] :: ns => do
    let a ← Node.toData k
    let b ← Node.toData v
    return .pair a b :: (← Node.pairData ns)
  | _ => throw .nodeKind

def Node.entryData : List (Node × Node) → Except Defect (List (Data × Data) × List (Data × Data))
  | [] => return ([], [])
  | (k, v) :: es => do
    if k.hasKind .merge then
      let taken ← Node.mergedData v
      let (merged, own) ← Node.entryData es
      return (taken ++ merged, own)
    else
      let key ← if k.hasKind .value then (k.scalarText).map fun s => Data.text (String.ofList s)
        else Node.toData k
      if !key.isScalar then throw .keyKind
      let value ← Node.toData v
      let (merged, own) ← Node.entryData es
      return (merged, (key, value) :: own)

/-- The entries that a mapping takes from a mapping, or from several, of which the first wins. -/
def Node.mergedData : Node → Except Defect (List (Data × Data))
  | .mapping _ entries => do
    let (merged, own) ← Node.entryData entries
    return merged ++ own
  | .sequence _ items => Node.mergedList items
  | .scalar .. => throw .nodeKind

def Node.mergedList : List Node → Except Defect (List (Data × Data))
  | [] => return []
  | .mapping _ entries :: ns => do
    let (merged, own) ← Node.entryData entries
    return (← Node.mergedList ns) ++ (merged ++ own)
  | _ => throw .nodeKind
end

/-! ## 5. Documents -/

def read (text : List Char) : Except Defect Data := do
  match ← Node.read text with
  | none => return .null
  | some n => n.toData

end Grading.Yaml
