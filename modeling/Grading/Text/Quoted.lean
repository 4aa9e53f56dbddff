import Grading.Text.Printable

/-!
# Quoted — texts in quotes

`quoted` shows a text between quotes so that every character can be told: a backslash, the quote
itself, the three named control characters and the characters that are not printable are escaped.
The quote is an apostrophe unless the text holds an apostrophe and no double quote.
-/

namespace Grading.Text

def hexDigit (n : Nat) : Char :=
  if n < 10 then Char.ofNat (48 + n) else Char.ofNat (87 + n)

def hexDigits : Nat → Nat → List Char
  | 0, _ => []
  | width + 1, n => hexDigits width (n / 16) ++ [hexDigit (n % 16)]

/-- The escape of a code point: two, four or eight hexadecimal digits, as few as hold it. -/
def hexEscape (n : Nat) : List Char :=
  if n < 0x100 then '\\' :: 'x' :: hexDigits 2 n
  else if n < 0x10000 then '\\' :: 'u' :: hexDigits 4 n
  else '\\' :: 'U' :: hexDigits 8 n

def quotedChar (quote c : Char) : List Char :=
  if c = quote || c = '\\' then ['\\', c]
  else if c = '\n' then ['\\', 'n']
  else if c = '\r' then ['\\', 'r']
  else if c = '\t' then ['\\', 't']
  else if isPrintable c then [c]
  else hexEscape c.toNat

def quoteFor (s : List Char) : Char :=
  if s.contains '\'' && !s.contains '"' then '"' else '\''

def quotedChars (s : List Char) : List Char :=
  let q := quoteFor s
  q :: (s.flatMap (quotedChar q) ++ [q])

def quoted (s : String) : String := String.ofList (quotedChars s.toList)

def quotedList (xs : List String) : String := "[" ++ ", ".intercalate (xs.map quoted) ++ "]"

end Grading.Text
