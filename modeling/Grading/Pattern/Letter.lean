import Grading.Pattern.Basic
import Grading.Text.Capital

/-!
# Letter — letters that differ in case alone

Without regard to case a character is made small before it is compared. A few small letters count as
equal to others that they are not made from.
-/

namespace Grading.Pattern

open Grading.Text

inductive Folding where
  | ascii
  | all
  deriving DecidableEq, Repr, Inhabited

def Flags.folding? (f : Flags) : Option Folding :=
  if f.ignoreCase then some (if f.ascii then .ascii else .all) else none

/-- Small letters that count as equal without being mapped to one another. -/
def caseFriends (n : Nat) : List Nat :=
  match n with
  | 0x69 => [0x131] | 0x73 => [0x17f] | 0xb5 => [0x3bc] | 0x131 => [0x69] | 0x17f => [0x73]
  | 0x345 => [0x3b9, 0x1fbe] | 0x390 => [0x1fd3] | 0x3b0 => [0x1fe3] | 0x3b2 => [0x3d0]
  | 0x3b5 => [0x3f5] | 0x3b8 => [0x3d1] | 0x3b9 => [0x345, 0x1fbe] | 0x3ba => [0x3f0]
  | 0x3bc => [0xb5] | 0x3c0 => [0x3d6] | 0x3c1 => [0x3f1] | 0x3c2 => [0x3c3] | 0x3c3 => [0x3c2]
  | 0x3c6 => [0x3d5] | 0x3d0 => [0x3b2] | 0x3d1 => [0x3b8] | 0x3d5 => [0x3c6] | 0x3d6 => [0x3c0]
  | 0x3f0 => [0x3ba] | 0x3f1 => [0x3c1] | 0x3f5 => [0x3b5] | 0x432 => [0x1c80] | 0x434 => [0x1c81]
  | 0x43e => [0x1c82] | 0x441 => [0x1c83] | 0x442 => [0x1c84, 0x1c85] | 0x44a => [0x1c86]
  | 0x463 => [0x1c87] | 0x1c80 => [0x432] | 0x1c81 => [0x434] | 0x1c82 => [0x43e]
  | 0x1c83 => [0x441] | 0x1c84 => [0x442, 0x1c85] | 0x1c85 => [0x442, 0x1c84] | 0x1c86 => [0x44a]
  | 0x1c87 => [0x463] | 0x1c88 => [0xa64b] | 0x1e61 => [0x1e9b] | 0x1e9b => [0x1e61]
  | 0x1fbe => [0x345, 0x3b9] | 0x1fd3 => [0x390] | 0x1fe3 => [0x3b0] | 0xa64b => [0x1c88]
  | 0xfb05 => [0xfb06] | 0xfb06 => [0xfb05]
  | _ => []

namespace Folding

def small (fold : Folding) (n : Nat) : Nat :=
  match fold with
  | .ascii => if 65 ≤ n && n ≤ 90 then n + 32 else n
  | .all => lowerCode n

def changes (fold : Folding) (n : Nat) : Bool :=
  match fold with
  | .ascii => (65 ≤ n && n ≤ 90) || (97 ≤ n && n ≤ 122)
  | .all => changesCase n

def friends (fold : Folding) (n : Nat) : List Nat :=
  match fold with
  | .ascii => []
  | .all => caseFriends n

def origins (fold : Folding) (n : Nat) : List Nat :=
  let seven := if 97 ≤ n && n ≤ 122 then [n - 32] else []
  let others := match fold with
    | .ascii => []
    | .all => lowerSteps.toList.filterMap fun (first, last, step, image) =>
      let m := first + (n - image)
      if image ≤ n && m ≤ last && (m - first) % step = 0 then some m else none
  n :: (seven ++ others)

end Folding

def smallUnder (fold : Option Folding) (n : Nat) : Nat :=
  match fold with
  | none => n
  | some f => f.small n

end Grading.Pattern
