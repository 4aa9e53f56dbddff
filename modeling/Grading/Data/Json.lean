import Grading.Data.Show

/-!
# Json — values as JSON text

All characters past the seven-bit ones are escaped, floats have the fewest digits that read back, and
a document is written on one line or indented. A value that the format has no notation for is written
as its plain text.
-/

namespace Grading.Data

open Grading.Text Grading.Decimal

def unitEscape (n : Nat) : List Char := '\\' :: 'u' :: hexDigits 4 n

def jsonChar (c : Char) : List Char :=
  if c = '"' then ['\\', '"']
  else if c = '\\' then ['\\', '\\']
  else if c = '\n' then ['\\', 'n']
  else if c = '\r' then ['\\', 'r']
  else if c = '\t' then ['\\', 't']
  else if c.toNat = 8 then ['\\', 'b']
  else if c.toNat = 12 then ['\\', 'f']
  else
    let n := c.toNat
    if 32 ≤ n && n < 127 then [c]
    else if n < 0x10000 then unitEscape n
    else
      let m := n - 0x10000
      unitEscape (0xd800 + m / 0x400) ++ unitEscape (0xdc00 + m % 0x400)

def jsonText (s : String) : String :=
  String.ofList ('"' :: (s.toList.flatMap jsonChar ++ ['"']))

def jsonSpelling : Spelling := ⟨"NaN", "Infinity"⟩

structure JsonLayout where
  indent : Option Nat
  deriving DecidableEq, Repr, Inhabited

def JsonLayout.break (l : JsonLayout) (level : Nat) : String :=
  match l.indent with
  | none => ""
  | some n => "\n" ++ String.ofList (List.replicate (n * level) ' ')

def JsonLayout.separator (l : JsonLayout) (level : Nat) : String :=
  match l.indent with
  | none => ", "
  | some _ => "," ++ l.break level

def JsonLayout.enclose (l : JsonLayout) (level : Nat) (opening closing : String)
    (items : List String) : String :=
  if items.isEmpty then opening ++ closing
  else opening ++ l.break (level + 1) ++ (l.separator (level + 1)).intercalate items ++
    l.break level ++ closing

def jsonKey : Data → String
  | .text s => jsonText s
  | .null => "\"null\""
  | .bool b => if b then "\"true\"" else "\"false\""
  | .int n => "\"" ++ intText n ++ "\""
  | .float x => "\"" ++ jsonSpelling.text x ++ "\""
  | d => jsonText d.plain

mutual
def jsonAt (l : JsonLayout) (level : Nat) : Data → String
  | .null => "null"
  | .bool b => if b then "true" else "false"
  | .int n => intText n
  | .float x => jsonSpelling.text x
  | .text s => jsonText s
  | .list xs => l.enclose level "[" "]" (jsonItems l (level + 1) xs)
  | .pair a b =>
    l.enclose level "[" "]" [jsonAt l (level + 1) a, jsonAt l (level + 1) b]
  | .map es => l.enclose level "\x7b" "\x7d" (jsonEntries l (level + 1) es)
  | d => jsonText d.plain

def jsonItems (l : JsonLayout) (level : Nat) : List Data → List String
  | [] => []
  | x :: xs => jsonAt l level x :: jsonItems l level xs

def jsonEntries (l : JsonLayout) (level : Nat) : List (Data × Data) → List String
  | [] => []
  | (k, v) :: es => (jsonKey k ++ ": " ++ jsonAt l level v) :: jsonEntries l level es
end

def json (indent : Option Nat) (d : Data) : String := jsonAt ⟨indent⟩ 0 d

end Grading.Data
