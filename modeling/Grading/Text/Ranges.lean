/-!
# Ranges — sorted tables of code points

A character class past the seven-bit characters is a sorted array of disjoint closed ranges,
searched by halving.
-/

namespace Grading.Text

def rangeIn? (t : Array (Nat × Nat)) (n : Nat) : Nat → Nat → Nat → Option (Nat × Nat)
  | 0, _, _ => none
  | fuel + 1, lo, hi =>
    if lo < hi then
      let mid := (lo + hi) / 2
      match t[mid]? with
      | none => none
      | some r =>
        if n < r.1 then rangeIn? t n fuel lo mid
        else if r.2 < n then rangeIn? t n fuel (mid + 1) hi
        else some r
    else none

def rangeOf? (t : Array (Nat × Nat)) (n : Nat) : Option (Nat × Nat) :=
  rangeIn? t n (t.size + 1) 0 t.size

def inRanges (t : Array (Nat × Nat)) (n : Nat) : Bool := (rangeOf? t n).isSome

end Grading.Text
