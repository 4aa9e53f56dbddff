import Grading.Text.Name.Alias
import Grading.Text.Name.Asian
import Grading.Text.Name.Eastern
import Grading.Text.Name.European
import Grading.Text.Name.Historic
import Grading.Text.Name.Pictorial
import Grading.Text.Name.Row
import Grading.Text.Name.Symbol
import Grading.Text.Quoted

/-!
# Name — characters by their names

Most names stand in tables. The names of Korean syllables are put together from those of their
sounds, and some names end in the digits of their own code point. Small letters may stand for the
capitals of a name, but not in the name of a Korean syllable or of a unified ideograph.
-/

namespace Grading.Text

/-! ## 1. Korean syllables -/

def initialSounds : List String :=
  ["G", "GG", "N", "D", "DD", "R", "M", "B", "BB", "S", "SS", "", "J", "JJ", "C", "K", "T", "P", "H"]

def middleSounds : List String :=
  ["A", "AE", "YA", "YAE", "EO", "E", "YEO", "YE", "O", "WA", "WAE", "OE", "YO", "U", "WEO", "WE",
    "WI", "YU", "EU", "YI", "I"]

def finalSounds : List String :=
  ["", "G", "GG", "GS", "N", "NJ", "NH", "D", "L", "LG", "LM", "LB", "LS", "LT", "LP", "LH", "M",
    "B", "BS", "S", "SS", "NG", "J", "C", "K", "T", "P", "H"]

def isMiddleLetter (c : Char) : Bool := "AEIOUWY".toList.contains c

def syllableCode? (sounds : List Char) : Option Nat := do
  let (first, rest) := sounds.span (!isMiddleLetter ·)
  let (middle, last) := rest.span isMiddleLetter
  let i ← initialSounds.findIdx? (·.toList = first)
  let m ← middleSounds.findIdx? (·.toList = middle)
  let f ← finalSounds.findIdx? (·.toList = last)
  return 0xAC00 + (i * middleSounds.length + m) * finalSounds.length + f

/-! ## 2. Names with digits of the code point -/

def ideographRanges : List (Nat × Nat) :=
  [(0x3400, 0x4DBF), (0x4E00, 0x9FFF), (0x20000, 0x2A6DF), (0x2A700, 0x2B738), (0x2B740, 0x2B81D),
    (0x2B820, 0x2CEA1), (0x2CEB0, 0x2EBE0), (0x30000, 0x3134A)]

def ideographCode? (digits : List Char) : Option Nat :=
  if digits.length = 4 || digits.length = 5 then
    (capitalHex? digits).filter fun n => ideographRanges.any fun r => r.1 ≤ n && n ≤ r.2
  else none

def numberedNames : List (String × Nat × Nat) :=
  [("CJK COMPATIBILITY IDEOGRAPH-", 0xF900, 0xFA6D),
    ("CJK COMPATIBILITY IDEOGRAPH-", 0xFA70, 0xFAD9),
    ("CJK COMPATIBILITY IDEOGRAPH-", 0x2F800, 0x2FA1D),
    ("KHITAN SMALL SCRIPT CHARACTER-", 0x18B00, 0x18CD5),
    ("NUSHU CHARACTER-", 0x1B170, 0x1B2FB)]

def dropText? (first : String) (s : List Char) : Option (List Char) :=
  if first.toList.isPrefixOf s then some (s.drop first.length) else none

/-- The code point of a name that ends in its digits, none of them a zero in front. -/
def numberedCode? (name : List Char) : Option Nat :=
  numberedNames.findSome? fun (words, low, high) => do
    let digits ← dropText? words name
    let n ← capitalHex? digits
    if low ≤ n && n ≤ high && digits.head? ≠ some '0' then return n else none

/-! ## 3. All names -/

def nameTables : List String :=
  [europeanNames, easternNames, symbolNames, asianNames, historicNames, pictorialNames, aliasNames]

def codeOfName? (name : List Char) : Option Nat :=
  match dropText? "HANGUL SYLLABLE " name, dropText? "CJK UNIFIED IDEOGRAPH-" name with
  | some sounds, _ => syllableCode? sounds
  | none, some digits => ideographCode? digits
  | none, none =>
    let name := name.map Char.toUpper
    (numberedCode? name).orElse fun _ => nameTables.findSome? (tableCode? name)

end Grading.Text
