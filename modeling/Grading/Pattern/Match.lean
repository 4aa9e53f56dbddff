import Grading.Pattern.Program

/-!
# Match — where an expression matches

A match is looked for by trying the possibilities of each operation in order and going back when what
follows fails. An attempt that fails leaves behind the marks it made and the position where it began
to try something last. Marks are taken back before another possibility is tried: all of them inside a
repetition, elsewhere those of groups begun since. A repetition goes on past its least number only while
it makes progress. Matches of a whole text are counted from left to right, none overlapping another.

A possessive repetition of a body goes on from the position that its last attempt left behind. So do the
engines of versions 3.11.0 to 3.11.4; those from 3.11.5 on go back to where that attempt began.
-/

namespace Grading.Pattern

/-! ## 1. Positions -/

def isWordAt (ascii : Bool) (t : Array Char) (i : Nat) : Bool :=
  (t[i]?).any (Category.word.holds ascii)

def atBoundary (ascii : Bool) (t : Array Char) (i : Nat) : Bool :=
  (0 < i && isWordAt ascii t (i - 1)) != isWordAt ascii t i

/-- Whether a position is the one required; an empty text has neither word boundaries nor others. -/
def Anchor.holds (f : Flags) (t : Array Char) (i : Nat) : Anchor → Bool
  | .lineStart => i = 0 || (f.multiline && t[i - 1]? = some '\n')
  | .lineEnd =>
    i = t.size || (t[i]? = some '\n' && (f.multiline || i + 1 = t.size))
  | .textStart => i = 0
  | .textEnd => i = t.size
  | .wordBoundary => t.size ≠ 0 && atBoundary f.ascii t i
  | .noWordBoundary => t.size ≠ 0 && !atBoundary f.ascii t i

def sameText (fold : Option Folding) (t : Array Char) : Nat → Nat → Nat → Bool
  | 0, _, _ => true
  | n + 1, i, j =>
    match t[i]?, t[j]? with
    | some a, some b =>
      smallUnder fold a.toNat == smallUnder fold b.toNat && sameText fold t n (i + 1) (j + 1)
    | _, _ => false

def runLength (t : Array Char) (s : Single) : Nat → Nat → Nat
  | 0, _ => 0
  | n + 1, i => if (t[i]?).any s.holds then runLength t s n (i + 1) + 1 else 0

/-! ## 2. Attempts -/

abbrev Marks := List (Option Nat)

structure Trail where
  reached : Nat
  marks : Marks := []
  deriving DecidableEq, Repr, Inhabited

/-- Notes a position by a mark; marks before it that do not count yet note none. -/
def Marks.note (ms : Marks) (index position : Nat) : Marks :=
  if index < ms.length then ms.set index (some position)
  else ms ++ List.replicate (index - ms.length) none ++ [some position]

def Marks.group? (ms : Marks) (g : Nat) : Option (Nat × Nat) :=
  match ms[beginMark g]?.join, ms[endMark g]?.join with
  | some i, some j => some (i, j)
  | _, _ => none

def Marks.span? (ms : Marks) (g : Nat) : Option (Nat × Nat) :=
  (ms.group? g).filter fun (i, j) => i ≤ j

def Trail.at (s : Trail) (position : Nat) : Trail := { s with reached := position }

def Trail.takeBack (s : Trail) (inside : Bool) (before : Marks) : Trail :=
  { s with marks := if inside then before else s.marks.take before.length }

/-- Whether an attempt succeeded, and what it leaves behind; on success the position is the end of
the match. -/
structure Attempt where
  matched : Bool
  trail : Trail
  deriving DecidableEq, Repr, Inhabited

def Trail.fail (s : Trail) : Attempt := ⟨false, s⟩

abbrev Try := Nat → Trail → Attempt

def finish : Try := fun i s => ⟨true, s.at i⟩

/-! ## 3. Repetition of one character -/

/-- Goes on after the most characters first: `extra` more than there are before `start`, then fewer.
Only positions in front of the character `next` are tried, if one is given. -/
def mostFirst (t : Array Char) (next : Option Nat) (inside : Bool) (before : Marks) (k : Try)
    (start : Nat) : Nat → Trail → Attempt
  | 0, s => tryAt start s
  | extra + 1, s =>
    let a := tryAt (start + (extra + 1)) s
    if a.matched then a else mostFirst t next inside before k start extra a.trail
where
  tryAt (i : Nat) (s : Trail) : Attempt :=
    if next.all fun n => (t[i]?).any fun c => c.toNat = n then
      let a := k i (s.at i)
      if a.matched then a else (a.trail.takeBack inside before).fail
    else s.fail

def fewestFirst (t : Array Char) (single : Single) (inside : Bool) (before : Marks) (k : Try) :
    Nat → Try
  | 0, i, s => tryAt i s
  | extra + 1, i, s =>
    let a := tryAt i s
    if !a.matched && (t[i]?).any single.holds then
      fewestFirst t single inside before k extra (i + 1) a.trail
    else a
where
  tryAt (i : Nat) (s : Trail) : Attempt :=
    let a := k i (s.at i)
    if a.matched then a
    else
      let s := a.trail.takeBack inside before
      (s.at (if single.isFolded && (t[i]?).any single.holds then i + 1 else i)).fail

def repeatSingle (t : Array Char) (single : Single) (greed : Greed) (least : Nat)
    (most : Option Nat) (next : Option Nat) (inside : Bool) (k : Try) : Try := fun i s =>
  let left := t.size - i
  if left < least then s.fail
  else
    let wanted := if greed = .lazy then least else (most.map (min left)).getD left
    let run := runLength t single wanted i
    let s := s.at (if single.isFolded then i + run else i)
    if run < least then s.fail
    else match greed with
      | .greedy => mostFirst t next inside s.marks k (i + least) (run - least) s
      | .lazy =>
        fewestFirst t single inside s.marks k ((most.map (min left)).getD left - least) (i + run) s
      | .possessive => k (i + run) s

/-! ## 4. Repetition of a body -/

/-- Repeats a body, most first. `last` is where the previous repetition past the least began. -/
def repeatGreedy (body : Try → Try) (least : Nat) (most : Option Nat) (k : Try) :
    Nat → Nat → Option Nat → Try
  | 0, _, _ => fun _ s => s.fail
  | fuel + 1, count, last => fun i s =>
    let s := s.at i
    if count < least then
      let a := body (repeatGreedy body least most k fuel (count + 1) last) i s
      if a.matched then a else (a.trail.at i).fail
    else
      let more : Attempt :=
        if most.all (count < ·) && last ≠ some i then
          body (repeatGreedy body least most k fuel (count + 1) (some i)) i s
        else s.fail
      if more.matched then more
      else
        let a := k i ⟨i, s.marks⟩
        if a.matched then a else (a.trail.at i).fail

/-- Repeats a body, fewest first; `inside` tells that the repetition is itself inside another. -/
def repeatLazy (body : Try → Try) (least : Nat) (most : Option Nat) (inside : Bool) (k : Try) :
    Nat → Nat → Option Nat → Try
  | 0, _, _ => fun _ s => s.fail
  | fuel + 1, count, last => fun i s =>
    let s := s.at i
    if count < least then
      let a := body (repeatLazy body least most inside k fuel (count + 1) last) i s
      if a.matched then a else (a.trail.at i).fail
    else
      let a := k i s
      if a.matched then a
      else
        let s := (a.trail.takeBack inside s.marks).at i
        if most.all (count < ·) && last ≠ some i then
          let a := body (repeatLazy body least most inside k fuel (count + 1) (some i)) i s
          if a.matched then a else (a.trail.at i).fail
        else s.fail

def repeatTimes (body : Try) : Nat → Trail → Attempt
  | 0, s => ⟨true, s⟩
  | n + 1, s =>
    let a := body s.reached s
    if a.matched then repeatTimes body n a.trail else a

/-- Matches a body at most so many times. The marks of the attempt that fails are taken back, and its
position is where the repetition ends. -/
def repeatWhile (body : Try) : Nat → Trail → Trail
  | 0, s => s
  | n + 1, s =>
    let a := body s.reached s
    if !a.matched then { a.trail with marks := s.marks }
    else if a.trail.reached = s.reached then a.trail
    else repeatWhile body n a.trail

def repeatPossessive (body : Try) (least : Nat) (most : Option Nat) (fuel : Nat) (k : Try) : Try :=
  fun i s =>
    let a := repeatTimes body least (s.at i)
    if a.matched then
      let s := repeatWhile body ((most.map (· - least)).getD fuel) a.trail
      k s.reached s
    else (a.trail.at i).fail

/-! ## 5. Operations -/

/-- Whether an alternative is worth trying: one that begins with a test of a character as it is
written is not, where the test fails. -/
def canBegin (t : Array Char) (i : Nat) : List Op → Bool
  | .single s :: _ => !s.isExact || (t[i]?).any s.holds
  | _ => true

mutual
/-- Tries an operation and goes on with `k`. What follows begins with the character `next`, if one is
given; `inside` tells that the operation is inside a repetition. -/
def Op.run (t : Array Char) (inside : Bool) : Op → Option Nat → Try → Try
  | .single single, _, k => fun i s => if (t[i]?).any single.holds then k (i + 1) s else s.fail
  | .anchor a f, _, k => fun i s => if a.holds f t i then k i s else s.fail
  | .mark index, _, k => fun i s => k i { s with marks := Marks.note s.marks index i }
  | .backreference g fold, _, k => fun i s =>
    match Marks.span? s.marks g with
    | none => s.fail
    | some (start, stop) =>
      if sameText fold t (stop - start) start i then k (i + (stop - start)) s else s.fail
  | .conditional g yes no, next, k => fun i s =>
    if (Marks.span? s.marks g).isSome then
      runProgram t inside yes (if no.isEmpty then next else none) k i s
    else runProgram t inside no next k i s
  | .branch alternatives, _, k => fun i s => runBranches t inside alternatives s.marks k i s
  | .repeatSingle greed least most single, next, k =>
    repeatSingle t single greed least most next inside k
  | .repeated greed least most body, _, k =>
    let fuel := least + 2 * t.size + 4
    match greed with
    | .greedy => repeatGreedy (runProgram t true body none) least most k fuel 0 none
    | .lazy => repeatLazy (runProgram t true body none) least most inside k fuel 0 none
    | .possessive => repeatPossessive (runProgram t inside body none finish) least most fuel k
  | .atomic body, _, k => fun i s =>
    let a := runProgram t inside body none finish i (s.at i)
    if a.matched then k a.trail.reached a.trail else (a.trail.at i).fail
  | .look behind negated body, _, k => fun i s =>
    let width := behind.getD 0
    if i < width then (if negated then k i s else s.fail)
    else
      let a := runProgram t inside body none finish (i - width) (s.at (i - width))
      match negated, a.matched with
      | false, true => k i a.trail
      | false, false => a
      | true, true => a.trail.fail
      | true, false => k i (a.trail.takeBack inside s.marks)

def runProgram (t : Array Char) (inside : Bool) : List Op → Option Nat → Try → Try
  | [], _, k => k
  | op :: ops, next, k => op.run t inside (firstLiteral? next ops) (runProgram t inside ops next k)

def runBranches (t : Array Char) (inside : Bool) : List (List Op) → Marks → Try → Try
  | [], _, _ => fun _ s => s.fail
  | a :: as, before, k => fun i s =>
    if canBegin t i a then
      let r := runProgram t inside a none k i (s.at i)
      if r.matched then r else runBranches t inside as before k i (r.trail.takeBack inside before)
    else runBranches t inside as before k i s
end

/-! ## 6. Counting -/

/-- Where the first match from position `i` on, up to `last`, begins, and what it leaves behind. At
`refused` a match must not be empty. -/
def searchFrom (t : Array Char) (program : List Op) (refused : Option Nat) (last : Nat) :
    Nat → Nat → Option (Nat × Trail)
  | 0, _ => none
  | fuel + 1, i =>
    let accept : Try := fun j s => if refused = some i && j = i then s.fail else finish j s
    let a := runProgram t false program none accept i ⟨i, []⟩
    if a.matched then some (i, a.trail)
    else if i < last then searchFrom t program refused last fuel (i + 1)
    else none

def search (t : Array Char) (program : List Op) (least : Nat) (refused : Option Nat) (i : Nat) :
    Option (Nat × Trail) :=
  if t.size - i < least then none
  else
    let last := max i (t.size - (least - 1))
    searchFrom t program refused last (last + 1 - i) i

def Marks.hasWrongSpan (ms : Marks) : Bool :=
  (List.range ms.length).any fun g => (ms.group? (g + 1)).any fun (i, j) => j < i

/-- The number of matches from position `i` on, none overlapping another; none if a group of one of
them ends before it begins. -/
def countFrom (t : Array Char) (program : List Op) (least : Nat) :
    Nat → Option Nat → Nat → Option Nat
  | 0, _, _ => some 0
  | fuel + 1, refused, i =>
    match search t program least refused i with
    | none => some 0
    | some (start, trail) =>
      let stop := trail.reached
      if Marks.hasWrongSpan trail.marks then none
      else
        let refused := if start = stop then some stop else none
        (countFrom t program least fuel refused stop).map (· + 1)

def countMatches (p : Pattern) (text : List Char) : Option Nat :=
  let t := text.toArray
  countFrom t (programOf p.flags p.body) p.least (2 * t.size + 2) none 0

end Grading.Pattern
