import Grading.Text.Quoted

/-!
# Utf8 — texts as bytes

`decode` reads bytes as characters and says where and why it cannot; `decodeLossy` puts a replacement
character for every longest piece of a broken sequence.
-/

namespace Grading.Text

inductive Utf8Reason where
  | badStart
  | badContinuation
  | cutShort
  deriving DecidableEq, Repr, Inhabited

def Utf8Reason.text : Utf8Reason → String
  | .badStart => "invalid start byte"
  | .badContinuation => "invalid continuation byte"
  | .cutShort => "unexpected end of data"

structure Utf8Error where
  start : Nat
  length : Nat
  byte : UInt8
  reason : Utf8Reason
  deriving DecidableEq, Repr, Inhabited

def Utf8Error.text (e : Utf8Error) : String :=
  let what := if e.length = 1 then
      "byte 0x" ++ String.ofList (hexDigits 2 e.byte.toNat) ++ " in position " ++ Nat.repr e.start
    else
      "bytes in position " ++ Nat.repr e.start ++ "-" ++ Nat.repr (e.start + e.length - 1)
  "'utf-8' codec can't decode " ++ what ++ ": " ++ e.reason.text

/-! ## 1. One character -/

/-- How a sequence of bytes goes on after its first byte: how many bytes follow, the bounds of the
second one, and the bits of the first. -/
structure Lead where
  following : Nat
  low : Nat
  high : Nat
  bits : Nat

def lead? (b : UInt8) : Option Lead :=
  let n := b.toNat
  if n < 0x80 then some ⟨0, 0, 0, n⟩
  else if n < 0xc2 then none
  else if n < 0xe0 then some ⟨1, 0x80, 0xbf, n - 0xc0⟩
  else if n < 0xf0 then
    some ⟨2, if n = 0xe0 then 0xa0 else 0x80, if n = 0xed then 0x9f else 0xbf, n - 0xe0⟩
  else if n < 0xf5 then
    some ⟨3, if n = 0xf0 then 0x90 else 0x80, if n = 0xf4 then 0x8f else 0xbf, n - 0xf0⟩
  else none

inductive Decoded where
  | char (c : Char) (rest : List UInt8)
  /-- A piece of so many bytes that belongs to no character. -/
  | broken (length : Nat) (reason : Utf8Reason)

/-- Reads the bytes that follow a first one; `taken` bytes were read so far. -/
def decodeRest (taken following low high value : Nat) (bytes : List UInt8) : Decoded :=
  match following with
  | 0 => .char (Char.ofNat value) bytes
  | k + 1 =>
    match bytes with
    | [] => .broken taken .cutShort
    | b :: r =>
      if low ≤ b.toNat && b.toNat ≤ high then
        decodeRest (taken + 1) k 0x80 0xbf (value * 64 + b.toNat % 64) r
      else .broken taken .badContinuation

def decodeChar (b : UInt8) (bytes : List UInt8) : Decoded :=
  match lead? b with
  | none => .broken 1 .badStart
  | some l => decodeRest 1 l.following l.low l.high l.bits bytes

/-! ## 2. Texts -/

/-- Reads characters; `fuel` bounds their number and `i` counts the bytes read so far. -/
def decodeFrom : Nat → Nat → List UInt8 → Except Utf8Error (List Char)
  | 0, _, _ => .ok []
  | _, _, [] => .ok []
  | fuel + 1, i, b :: r =>
    match decodeChar b r with
    | .char c rest => do
      let cs ← decodeFrom fuel (i + (r.length + 1 - rest.length)) rest
      return c :: cs
    | .broken length reason => .error ⟨i, length, b, reason⟩

def decode (bytes : List UInt8) : Except Utf8Error (List Char) :=
  decodeFrom bytes.length 0 bytes

def decodeLossyFrom : Nat → List UInt8 → List Char
  | 0, _ => []
  | _, [] => []
  | fuel + 1, b :: r =>
    match decodeChar b r with
    | .char c rest => c :: decodeLossyFrom fuel rest
    | .broken length _ => Char.ofNat 0xfffd :: decodeLossyFrom fuel ((b :: r).drop length)

def decodeLossy (bytes : List UInt8) : List Char := decodeLossyFrom bytes.length bytes

def encode (s : String) : List UInt8 := s.toUTF8.data.toList

end Grading.Text
