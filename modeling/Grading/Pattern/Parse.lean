import Grading.Pattern.Escape
import Grading.Pattern.Switch
import Grading.Pattern.Width
import Grading.Text.Identifier
import Grading.Text.Integer

/-!
# Parse — reading an expression

`compile` reads an expression and checks it as a whole. Alternatives that begin alike are read as one
beginning with a choice behind it, and a choice between single characters as a character class.
-/

namespace Grading.Pattern

open Grading.Text

/-! ## 1. Repetition -/

def boundValue (ds : List Char) : Reader Nat :=
  match numberOf ds with
  | .ok n => return n
  | .error e => throw (.numberTooLong e)

def readBounds (here : Nat) : Reader (Option (Nat × Option Nat)) := do
  let start ← get
  if (← peek) = some (.char '\x7d') then return none
  let fuel ← remaining
  let lo ← takeWhile isDecimal fuel
  let hi ← if ← takeChar ',' then takeWhile isDecimal fuel else pure lo
  if !(← takeChar '\x7d') then
    set start
    return none
  let least ← boundValue lo
  if repetitionLimit ≤ least then throw .repetitionTooLarge
  if hi.isEmpty then return some (least, none)
  let most ← boundValue hi
  if repetitionLimit ≤ most then throw .repetitionTooLarge
  if most < least then fail .leastOverMost ((← get).position - here)
  return some (least, some most)

def readGreed : Reader Greed := do
  if ← takeChar '?' then return .lazy
  if ← takeChar '+' then return .possessive
  return .greedy

/-- A part of a sequence, or the parts of a group that neither notes its text nor changes switches. -/
def Node.unpacked : Node → List Node
  | .group none add remove body =>
    if add = {} && remove = {} then body else [.group none add remove body]
  | n => [n]

def repeatable (back : Nat) : Option Node → Reader (List Node)
  | none => fail .nothingToRepeat back
  | some (.anchor _) => fail .nothingToRepeat back
  | some (.repeated ..) => fail .multipleRepeat back
  | some n => return n.unpacked

/-! ## 2. Groups -/

def checkName (name : String) : Reader Unit := do
  if !isName name.toList then fail (.badGroupName name) (name.length + 1)

def openGroup (name : Option String) : Reader Nat := do
  let p ← get
  let index := p.groups.length
  match name with
  | none => set { p with groups := p.groups ++ [none] }
  | some n =>
    match p.names.lookup n with
    | some old => fail (.redefinedGroup n index old) (n.length + 1)
    | none => set { p with groups := p.groups ++ [none], names := (n, index) :: p.names }
  return index

def closeGroup (index : Nat) (body : List Node) : Reader Unit :=
  modify fun p => { p with groups := p.groups.set index (some (sequenceWidth p.groups body)) }

def groupLimit : Nat := Nat.pow 2 30 - 1

def conditionGroup : Reader Nat := do
  let name ← nameUntil ')' "group name"
  let back := name.length + 1
  let group ← if isName name.toList then
      match (← get).names.lookup name with
      | some g => pure g
      | none => fail (.unknownGroupName name) back
    else
      match integer? name.toList with
      | some (.ofNat n) => do
        if n = 0 then fail .badGroupNumber back
        if groupLimit ≤ n then fail (.invalidGroup n) back
        modify fun p =>
          if p.conditions.any (·.1 = n) then p
          else { p with conditions := p.conditions ++ [(n, p.position - back)] }
        pure n
      | _ => fail (.badGroupName name) back
  checkLookbehind group
  return group

def namedReference : Reader Node := do
  let name ← nameUntil ')' "group name"
  checkName name
  match (← get).names.lookup name with
  | none => fail (.unknownGroupName name) (name.length + 1)
  | some g =>
    if !(← get).groups.isClosed g then fail .openGroup (name.length + 1)
    checkLookbehind g
    return .backreference g

def skipComment (start : Nat) : Nat → Reader Unit
  | 0 => return
  | fuel + 1 => do
    if (← peek).isNone then fail .unterminatedComment ((← get).position - start)
    if (← take) = some (.char ')') then return
    skipComment start fuel

def skipLine : Nat → Reader Unit
  | 0 => return
  | fuel + 1 => do
    match ← take with
    | none => return
    | some (.char '\n') => return
    | some _ => skipLine fuel

inductive Opening where
  /-- A group with a body. -/
  | group (capture : Bool) (name : Option String) (isAtomic : Bool) (add remove : Flags)
  | look (ahead negated : Bool)
  | condition
  | reference (n : Node)
  | comment
  /-- Switches for the whole expression. -/
  | switches

def readOpening (start : Nat) (isFirst : Bool) : Reader Opening := do
  match ← take with
  | none => fail .unexpectedEnd
  | some (.char 'P') =>
    if ← takeChar '<' then
      let name ← nameUntil '>' "group name"
      checkName name
      return .group true (some name) false {} {}
    if ← takeChar '=' then return .reference (← namedReference)
    match ← take with
    | none => fail .unexpectedEnd
    | some t => fail (.unknownExtension ("P" ++ t.text)) (t.length + 2)
  | some (.char ':') => return .group false none false {} {}
  | some (.char '#') =>
    skipComment start ((← remaining) + 1)
    return .comment
  | some (.char '=') => return .look true false
  | some (.char '!') => return .look true true
  | some (.char '<') =>
    match ← take with
    | none => fail .unexpectedEnd
    | some (.char '=') => return .look false false
    | some (.char '!') => return .look false true
    | some t => fail (.unknownExtension ("<" ++ t.text)) (t.length + 2)
  | some (.char '(') => return .condition
  | some (.char '>') => return .group false none true {} {}
  | some (.char c) =>
    if c = '-' || (flag? c).isSome then
      match ← readFlags c with
      | some (add, remove) => return .group false none false add remove
      | none =>
        if !isFirst then fail .flagsNotAtStart ((← get).position - start)
        return .switches
    else fail (.unknownExtension (String.singleton c)) 2
  | some t => fail (.unknownExtension t.text) (t.length + 1)

def closeParenthesis (start : Nat) : Reader Unit := do
  if !(← takeChar ')') then fail .unterminatedGroup ((← get).position - start)

/-! ## 3. Alternatives -/

/-- Whether two parts are the same test of a character, position or reference. Parts with a body are
never taken for the same. -/
def Node.isSame : Node → Node → Bool
  | .char n c, .char n' c' => n == n' && c == c'
  | .oneOf n is, .oneOf n' is' => n == n' && is == is'
  | .any, .any => true
  | .anchor a, .anchor a' => a == a'
  | .backreference g, .backreference g' => g == g'
  | _, _ => false

def commonBeginning : List Node → List (List Node) → List Node × List (List Node)
  | [], others => ([], [] :: others)
  | n :: ns, others =>
    if others.all fun a => a.head?.any n.isSame then
      let (shared, rests) := commonBeginning ns (others.map List.tail)
      (n :: shared, rests)
    else ([], (n :: ns) :: others)

def classOfAlternatives? : List (List Node) → Option (List ClassItem)
  | [] => some []
  | [.char false code] :: as => (classOfAlternatives? as).map (.char code :: ·)
  | [.oneOf false items] :: as => (classOfAlternatives? as).map (items ++ ·)
  | _ => none

/-- The sequence for several alternatives: what all of them begin with is matched once, before the
choice. -/
def sequenceOfAlternatives (first : List Node) (others : List (List Node)) : List Node :=
  let (shared, rests) := commonBeginning first others
  match classOfAlternatives? rests with
  | some items => shared ++ [.oneOf false items.eraseDups]
  | none => shared ++ [.branch rests]

/-! ## 4. Expressions -/

def isVerboseBlank (c : Char) : Bool :=
  c == ' ' || (9 ≤ c.toNat && c.toNat ≤ 13)

mutual
/-- Alternatives up to a closing parenthesis or the end. `isTop` tells the whole expression. -/
def alternatives (fuel : Nat) (verbose isTop : Bool) : Reader (List Node) :=
  match fuel with
  | 0 => return []
  | fuel + 1 => do
    let first ← sequence fuel verbose isTop []
    match ← moreAlternatives fuel verbose isTop with
    | [] => return first
    | others => return sequenceOfAlternatives first others

def moreAlternatives (fuel : Nat) (verbose isTop : Bool) : Reader (List (List Node)) :=
  match fuel with
  | 0 => return []
  | fuel + 1 => do
    if !(← takeChar '|') then return []
    let flags := (← get).flags
    let verbose := if isTop then flags.verbose else verbose
    let next ← sequence fuel verbose false []
    return next :: (← moreAlternatives fuel verbose isTop)

/-- A sequence up to a bar, a closing parenthesis or the end; `nodes` is what was read, last first.
`isFirst` tells that switches for the whole expression may come as long as nothing else has. -/
def sequence (fuel : Nat) (verbose isFirst : Bool) (nodes : List Node) : Reader (List Node) :=
  match fuel with
  | 0 => return nodes.reverse
  | fuel + 1 => do
    match ← peek with
    | none => return nodes.reverse.flatMap Node.unpacked
    | some (.char '|') => return nodes.reverse.flatMap Node.unpacked
    | some (.char ')') => return nodes.reverse.flatMap Node.unpacked
    | some this =>
      let _ ← take
      match this with
      | .escape c => sequence fuel verbose isFirst ((← escape c) :: nodes)
      | .char c =>
        if verbose && isVerboseBlank c then sequence fuel verbose isFirst nodes
        else if verbose && c = '#' then
          skipLine ((← remaining) + 1)
          sequence fuel verbose isFirst nodes
        else if c = '[' then
          let here := (← get).position - 1
          let negated ← takeChar '^'
          let items ← classItems here ((← remaining) + 1) []
          sequence fuel verbose isFirst (.ofClass negated items :: nodes)
        else if c = '.' then sequence fuel verbose isFirst (.any :: nodes)
        else if c = '^' then sequence fuel verbose isFirst (.anchor .lineStart :: nodes)
        else if c = '$' then sequence fuel verbose isFirst (.anchor .lineEnd :: nodes)
        else if c = '*' || c = '+' || c = '?' || c = '\x7b' then
          let here := (← get).position
          let bounds ← if c = '\x7b' then readBounds here
            else pure (some (if c = '+' then 1 else 0, if c = '?' then some 1 else none))
          match bounds with
          | none => sequence fuel verbose isFirst (.char false c.toNat :: nodes)
          | some (least, most) =>
            let body ← repeatable ((← get).position - here + 1) nodes.head?
            let greed ← readGreed
            sequence fuel verbose isFirst (.repeated greed least most body :: nodes.tail)
        else if c = '(' then
          match ← parenthesis fuel verbose (isFirst && nodes.isEmpty) with
          | some n => sequence fuel verbose isFirst (n :: nodes)
          | none =>
            -- a comment leaves the notation as it is, switches may have changed it
            let flags := (← get).flags
            let verbose := verbose || (isFirst && nodes.isEmpty && flags.verbose)
            sequence fuel verbose isFirst nodes
        else sequence fuel verbose isFirst (.char false c.toNat :: nodes)

/-- A group after its opening parenthesis; nothing for a comment or switches. -/
def parenthesis (fuel : Nat) (verbose isFirst : Bool) : Reader (Option Node) :=
  match fuel with
  | 0 => return none
  | fuel + 1 => do
    let start := (← get).position - 1
    let opening ← if ← takeChar '?' then readOpening start isFirst
      else pure (.group true none false {} {})
    match opening with
    | .comment => return none
    | .switches => return none
    | .reference n => return some n
    | .condition =>
      let group ← conditionGroup
      let yes ← sequence fuel verbose false []
      let no ← if ← takeChar '|' then
          let no ← sequence fuel verbose false []
          if (← peek) = some (.char '|') then fail .tooManyBranches
          pure no
        else pure []
      closeParenthesis start
      return some (.conditional group yes no)
    | .look ahead negated =>
      let outer := (← get).lookbehind
      if !ahead && outer.isNone then
        modify fun p => { p with lookbehind := some p.groups.length }
      let body ← alternatives fuel verbose false
      if !ahead then modify fun p => { p with lookbehind := outer }
      closeParenthesis start
      let groups := (← get).groups
      let behind := if ahead then none else some (sequenceWidth groups body).1
      return some (.look behind negated body)
    | .group capture name isAtomic add remove =>
      let index ← if capture then some <$> openGroup name else pure none
      let body ← alternatives fuel ((verbose || add.verbose) && !remove.verbose) false
      closeParenthesis start
      if let some i := index then closeGroup i body
      return some (if isAtomic then .atomic body else .group index add remove body)
end

/-! ## 5. Checks on the whole -/

mutual
/-- The greatest width of a look behind in a part. Every one must have a fixed width, and there must be
no repetition where it is forbidden. -/
def Node.check (groups : Widths) (forbidden : Bool) : Node → Except Error Nat
  | .char .. => .ok 0
  | .oneOf .. => .ok 0
  | .any => .ok 0
  | .anchor _ => .ok 0
  | .group _ _ _ body => checkSequence groups forbidden body
  | .atomic body => checkSequence groups forbidden body
  | .branch alternatives => checkBranches groups forbidden alternatives
  | .repeated greed _ _ body =>
    if forbidden then
      .error (.repetitionForbidden (match greed with
        | .greedy => "MAX_REPEAT"
        | .lazy => "MIN_REPEAT"
        | .possessive => "POSSESSIVE_REPEAT"))
    else checkSequence groups forbidden body
  | .look behind _ body => do
    let (lo, hi) := sequenceWidth groups body
    if behind.isSome && lo ≠ hi then throw .variableLookbehind
    return max (behind.getD 0) (← checkSequence groups forbidden body)
  | .backreference _ => .ok 0
  | .conditional _ yes no => do
    return max (← checkSequence groups forbidden yes) (← checkSequence groups forbidden no)

def checkSequence (groups : Widths) (forbidden : Bool) : List Node → Except Error Nat
  | [] => .ok 0
  | n :: ns => do return max (← n.check groups forbidden) (← checkSequence groups forbidden ns)

def checkBranches (groups : Widths) (forbidden : Bool) : List (List Node) → Except Error Nat
  | [] => .ok 0
  | a :: as => do
    return max (← checkSequence groups forbidden a) (← checkBranches groups forbidden as)
end

def lookbehindLimit : Nat := Nat.pow 2 31

def missingGroup? (p : Progress) : Option (Nat × Nat) :=
  p.conditions.find? fun e => p.groups.length ≤ e.1

def compile (source : List Char) : Except Error Pattern := do
  if source = ['\\'] then throw (.at .danglingEscape 0)
  let fuel := 4 * source.length + 8
  let (body, p) ← (alternatives fuel false true).run { rest := source }
  if p.flags.ascii && p.flags.unicode then throw .incompatibleFlags
  if (nextToken p.rest).isSome then throw (.at .unbalanced p.position)
  if let some (group, position) := missingGroup? p then throw (.at (.invalidGroup group) position)
  let widest ← checkSequence p.groups p.flags.template body
  if lookbehindLimit ≤ widest then throw .lookbehindTooWide
  return { flags := p.flags, body, least := (sequenceWidth p.groups body).1 }

end Grading.Pattern
