/-!
# Row — tables of character names

A table is a text of rows with semicolons between them. A row such as `28 LEFT:PARENTHESIS` or
`41 LATIN CAPITAL LETTER:A*26` has a code point in hexadecimal digits, the words that all of its
names begin with, and after a colon the rest of the name of that code point and of those after it. A
star and a number after a name stand for so many names, each the successor of the one before; without
a name, or between two commas, they stand for code points that the row does not name. A line break
with three blanks may stand anywhere and means nothing.
-/

namespace Grading.Text

def capitalHexValue? (c : Char) : Option Nat :=
  if '0' ≤ c && c ≤ '9' then some (c.toNat - 48)
  else if 'A' ≤ c && c ≤ 'F' then some (c.toNat - 55)
  else none

def capitalHex? : List Char → Option Nat :=
  go 0
where
  go (n : Nat) : List Char → Option Nat
    | [] => some n
    | c :: r => (capitalHexValue? c).bind fun d => go (16 * n + d) r

/-- The name after a name, both reversed: the last letter or digit goes up by one, and a nine
carries. -/
def successor : List Char → List Char
  | [] => []
  | '9' :: r => '0' :: successor r
  | c :: r => Char.ofNat (c.toNat + 1) :: r

/-- The place of a name in a run of so many names from the given one on; both are reversed. -/
def indexInRun (name : List Char) : Nat → List Char → Option Nat
  | 0, _ => none
  | n + 1, first =>
    if name = first then some 0 else (indexInRun name n (successor first)).map (· + 1)

/-- The code point of a name among the entries of a row, of which the first is for `code`. -/
def entryCode? (name : List Char) (code : Nat) : List String → Option Nat
  | [] => none
  | e :: es =>
    let (first, count) := match e.splitOn "*" with
      | [first, count] => (first, count.toNat?.getD 1)
      | _ => (e, 1)
    let found := if first.isEmpty then none else indexInRun name.reverse count first.toList.reverse
    match found with
    | some i => some (code + i)
    | none => entryCode? name (code + count) es

def dropWords? (words name : List Char) : Option (List Char) :=
  if words.isEmpty then some name
  else if (words ++ [' ']).isPrefixOf name then some (name.drop (words.length + 1))
  else none

def joinLines (s : String) : String := s.replace "\n   " ""

def rowCode? (name : List Char) (row : String) : Option Nat :=
  match row.splitOn ":" with
  | [head, entries] =>
    let head := (joinLines head).toList
    let digits := head.takeWhile (· ≠ ' ')
    match dropWords? (head.drop (digits.length + 1)) name, capitalHex? digits with
    | some rest, some code => entryCode? rest code ((joinLines entries).splitOn ",")
    | _, _ => none
  | _ => none

def tableCode? (name : List Char) (table : String) : Option Nat :=
  (table.splitOn ";").findSome? (rowCode? name)

end Grading.Text
