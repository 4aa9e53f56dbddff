import Grading.Pattern.Reader
import Grading.Text.Alnum

/-!
# Switch — letters that change the notation or the meaning of an expression

Switches are letters after a question mark at the beginning of a group. Those behind a minus sign are
turned off. They hold for the group up to its end or, without a colon, for the whole expression.
-/

namespace Grading.Pattern

open Grading.Text

def flag? : Char → Option Flags
  | 'i' => some { ignoreCase := true }
  | 'L' => some {}
  | 'm' => some { multiline := true }
  | 's' => some { dotAll := true }
  | 'x' => some { verbose := true }
  | 'a' => some { ascii := true }
  | 't' => some { template := true }
  | 'u' => some { unicode := true }
  | _ => none

def noFlag {α : Type} (t : Token) (what : String) : Reader α :=
  match t with
  | .char c => if isAlphabetic c then fail .unknownFlag 1 else fail (.missing what) 1
  | .escape _ => fail (.missing what) 2

def flagsOn : Nat → Flags → Char → Reader (Flags × Char)
  | 0, _, _ => fail (.missing "-, : or )")
  | fuel + 1, on, c => do
    if c = 'L' then fail (.badFlags "cannot use 'L' flag with a str pattern")
    let flag := (flag? c).getD {}
    let on := on.union flag
    if (flag.ascii || flag.unicode) && on.ascii && on.unicode then
      fail (.badFlags "flags 'a', 'u' and 'L' are incompatible")
    match ← take with
    | none => fail (.missing "-, : or )")
    | some (.char d) =>
      if d = ')' || d = '-' || d = ':' then return (on, d)
      if (flag? d).isNone then noFlag (.char d) "-, : or )"
      else flagsOn fuel on d
    | some t => noFlag t "-, : or )"

def flagsOff : Nat → Flags → Char → Reader Flags
  | 0, _, _ => fail (.missing ":")
  | fuel + 1, off, c => do
    let flag := (flag? c).getD {}
    if c = 'L' || flag.ascii || flag.unicode then
      fail (.badFlags "cannot turn off flags 'a', 'u' and 'L'")
    let off := off.union flag
    match ← take with
    | none => fail (.missing ":")
    | some (.char d) =>
      if d = ':' then return off
      if (flag? d).isNone then noFlag (.char d) ":"
      else flagsOff fuel off d
    | some t => noFlag t ":"

/-- The switches of a group from their first token on: those turned on and off in the group, or
nothing when they hold for the whole expression. -/
def readFlags (c : Char) : Reader (Option (Flags × Flags)) := do
  let fuel := (← remaining) + 2
  let (on, stop) ← if c = '-' then pure ({}, '-') else flagsOn fuel {} c
  if stop = ')' then
    modify fun p => { p with flags := p.flags.union on }
    return none
  if on.template then fail (.badFlags "cannot turn on global flag") 1
  let off ← if stop = '-' then
      match ← take with
      | none => fail (.missing "flag")
      | some (.char d) =>
        if (flag? d).isNone then noFlag (.char d) "flag"
        else flagsOff fuel {} d
      | some t => noFlag t "flag"
    else pure {}
  if off.template then fail (.badFlags "cannot turn off global flag") 1
  if on.meets off then fail (.badFlags "flag turned on and off") 1
  return some (on, off)

end Grading.Pattern
