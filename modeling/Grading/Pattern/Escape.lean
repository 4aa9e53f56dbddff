import Grading.Pattern.Reader
import Grading.Text.Name

/-!
# Escape — what a backslash begins

A backslash and a letter stand for a code point, a class of characters, a position or a group; what
they stand for differs between a character class in brackets and the rest of an expression.
-/

namespace Grading.Pattern

open Grading.Text

/-! ## 1. Codes -/

def isOctal (c : Char) : Bool := '0' ≤ c && c ≤ '7'

def isDecimal (c : Char) : Bool := '0' ≤ c && c ≤ '9'

def isHex (c : Char) : Bool :=
  isDecimal c || ('a' ≤ c && c ≤ 'f') || ('A' ≤ c && c ≤ 'F')

def isLetter (c : Char) : Bool := ('a' ≤ c && c ≤ 'z') || ('A' ≤ c && c ≤ 'Z')

def baseDigit (c : Char) : Nat :=
  if isDecimal c then c.toNat - 48
  else if 'a' ≤ c then c.toNat - 87
  else c.toNat - 55

def baseValue (base : Nat) (ds : List Char) : Nat :=
  ds.foldl (fun n c => n * base + baseDigit c) 0

def controlEscape? : Char → Option Nat
  | 'a' => some 7
  | 'b' => some 8
  | 'f' => some 12
  | 'n' => some 10
  | 'r' => some 13
  | 't' => some 9
  | 'v' => some 11
  | '\\' => some 92
  | _ => none

def categoryEscape? : Char → Option ClassItem
  | 'd' => some (.category .digit false)
  | 'D' => some (.category .digit true)
  | 's' => some (.category .blank false)
  | 'S' => some (.category .blank true)
  | 'w' => some (.category .word false)
  | 'W' => some (.category .word true)
  | _ => none

def anchorEscape? : Char → Option Anchor
  | 'A' => some .textStart
  | 'Z' => some .textEnd
  | 'b' => some .wordBoundary
  | 'B' => some .noWordBoundary
  | _ => none

/-- The code point written by exactly `width` hexadecimal digits after a backslash and a letter. -/
def hexCode (letter : Char) (width : Nat) : Reader Nat := do
  let ds ← takeWhile isHex width
  let escape := String.ofList ('\\' :: letter :: ds)
  if ds.length ≠ width then fail (.incompleteEscape escape) escape.length
  let n := baseValue 16 ds
  if 0x10ffff < n then fail (.badEscape escape) escape.length
  return n

def namedCode : Reader Nat := do
  if !(← takeChar '\x7b') then fail (.missing "\x7b")
  let name ← nameUntil '\x7d' "character name"
  match codeOfName? name.toList with
  | some n => return n
  | none => fail (.undefinedCharacter name) (name.length + 4)

/-- The escapes that write a code point, in a class and outside; `none` for any other. -/
def codeEscape? (c : Char) : Reader (Option Nat) := do
  if c = 'x' then return some (← hexCode c 2)
  if c = 'u' then return some (← hexCode c 4)
  if c = 'U' then return some (← hexCode c 8)
  if c = 'N' then return some (← namedCode)
  return none

def octalCode (ds : List Char) : Reader Nat := do
  let n := baseValue 8 ds
  if 0o377 < n then
    fail (.octalTooLarge (String.ofList ('\\' :: ds))) (ds.length + 1)
  return n

/-! ## 2. Escapes -/

def classEscape (c : Char) : Reader ClassItem := do
  if let some n := controlEscape? c then return .char n
  if let some k := categoryEscape? c then return k
  if let some n ← codeEscape? c then return .char n
  if isOctal c then
    return .char (← octalCode (c :: (← takeWhile isOctal 2)))
  if isDecimal c || isLetter c then fail (.badEscape (String.ofList ['\\', c])) 2
  return .char c.toNat

def checkLookbehind (group : Nat) : Reader Unit := do
  let p ← get
  match p.lookbehind with
  | none => return
  | some n =>
    if !p.groups.isClosed group then fail .openGroup
    if n ≤ group then fail .groupOfSameLookbehind

def escape (c : Char) : Reader Node := do
  if let some k := categoryEscape? c then return .oneOf false [k]
  if let some a := anchorEscape? c then return .anchor a
  if let some n := controlEscape? c then return .char false n
  if let some n ← codeEscape? c then return .char false n
  if c = '0' then
    return .char false (baseValue 8 (c :: (← takeWhile isOctal 2)))
  if isDecimal c then
    let more ← takeWhile isDecimal 1
    match more with
    | [d] =>
      if isOctal c && isOctal d then
        let last ← takeWhile isOctal 1
        if !last.isEmpty then return .char false (← octalCode (c :: d :: last))
    | _ => pure ()
    let ds := c :: more
    let group := baseValue 10 ds
    let p ← get
    if group < p.groups.length then
      if !p.groups.isClosed group then fail .openGroup (ds.length + 1)
      checkLookbehind group
      return .backreference group
    fail (.invalidGroup group) ds.length
  if isLetter c then fail (.badEscape (String.ofList ['\\', c])) 2
  return .char false c.toNat

/-! ## 3. Character classes -/

/-- The members of a class after its opening bracket; `here` is where the class began and `items`
what was read, last first. -/
def classItems (here : Nat) : Nat → List ClassItem → Reader (List ClassItem)
  | 0, _ => fail .unterminatedClass
  | fuel + 1, items => do
    let unterminated : Reader (List ClassItem) := do
      fail .unterminatedClass ((← get).position - here)
    match ← take with
    | none => unterminated
    | some this =>
      if this = .char ']' && !items.isEmpty then return items.reverse
      let first ← match this with
        | .escape c => classEscape c
        | .char c => pure (.char c.toNat)
      if !(← takeChar '-') then classItems here fuel (first :: items)
      else
        match ← take with
        | none => unterminated
        | some that =>
          if that = .char ']' then return (.char 45 :: first :: items).reverse
          let last ← match that with
            | .escape c => classEscape c
            | .char c => pure (.char c.toNat)
          let bad : Reader (List ClassItem) :=
            fail (.badRange this.text that.text) (this.length + 1 + that.length)
          match first, last with
          | .char lo, .char hi =>
            if hi < lo then bad else classItems here fuel (.range lo hi :: items)
          | _, _ => bad

def Node.ofClass (negated : Bool) (items : List ClassItem) : Node :=
  match items.eraseDups with
  | [.char code] => .char negated code
  | items => .oneOf negated items

end Grading.Pattern
