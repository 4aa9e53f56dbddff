import Grading.Yaml.Token

/-!
# Node — the tree of a document

A document is a tree of texts, sequences and mappings. Each node has a tag that says what it stands
for, if the document gives one, and an alias stands for the node that was named before.
-/

namespace Grading.Yaml

inductive Node where
  | scalar (tag : Option String) (isPlain : Bool) (text : List Char)
  | sequence (tag : Option String) (items : List Node)
  | mapping (tag : Option String) (entries : List (Node × Node))
  deriving Repr, Inhabited

def Node.absent : Node := .scalar none true []

structure Source where
  tokens : List Token
  /-- The nodes with names; one that is not finished has no node yet. -/
  anchors : List (String × Option Node) := []
  handles : List (List Char × String) := []
  deriving Inhabited

/-- Reads what is left of a document, behind which a defect of the text may stand. -/
abbrev Reading := ReaderT (Option Defect) (StateT Source (Except Defect))

namespace Reading

/-! ## 1. Tokens -/

/-- The next token; the defect of the text shows only here, when no token is left. -/
def peek : Reading (Option Token) := do
  match (← get).tokens, ← read with
  | t :: _, _ => return some t
  | [], none => return none
  | [], some d => throw d

def take : Reading Unit := modify fun s => { s with tokens := s.tokens.drop 1 }

def takeIf (t : Token) : Reading Bool := do
  if (← peek) = some t then
    take
    return true
  else return false

def need (t : Token) : Reading Unit := do
  if !(← takeIf t) then throw .order

def isNext (ts : List Token) : Reading Bool := do
  match ← peek with
  | none => return false
  | some t => return ts.contains t

/-! ## 2. Properties -/

def commonTag : String := "tag:yaml.org,2002:"

def commonHandles : List (List Char × String) := [(['!'], "!"), (['!', '!'], commonTag)]

def expandTag (handle : Option (List Char)) (suffix : List Char) : Reading String := do
  match handle with
  | none => return String.ofList suffix
  | some h =>
    match (← get).handles.lookup h with
    | some expansion => return expansion ++ String.ofList suffix
    | none => throw .tag

structure Properties where
  anchor : Option String := none
  tag : Option String := none

def anchor? : Reading (Option String) := do
  match ← peek with
  | some (.anchor name) =>
    take
    return some (String.ofList name)
  | _ => return none

def tag? : Reading (Option String) := do
  match ← peek with
  | some (.tag handle suffix) =>
    take
    return some (← expandTag handle suffix)
  | _ => return none

def properties : Reading Properties := do
  let anchor ← anchor?
  let tag ← tag?
  if anchor.isNone && tag.isSome then return { anchor := ← anchor?, tag }
  else return { anchor, tag }

def setAnchor (anchor : Option String) (n : Option Node) : Reading Unit := do
  match anchor with
  | none => return
  | some name => modify fun s => { s with anchors := (name, n) :: s.anchors }

def needFresh (anchor : Option String) : Reading Unit := do
  match anchor with
  | none => return
  | some name => if ((← get).anchors.lookup name).isSome then throw (.duplicateAnchor name)

/-- Reads a node and gives it a name, which stands for nothing until the node is read. -/
def named (anchor : Option String) (read : Reading Node) : Reading Node := do
  needFresh anchor
  setAnchor anchor none
  let n ← read
  setAnchor anchor (some n)
  return n

def behind (t : Token) (read : Reading Node) : Reading Node := do
  if ← takeIf t then read else return .absent

def separated (isFirst : Bool) : Reading Unit := if isFirst then return else need .flowEntry

def aliased (name : List Char) : Reading Node := do
  match (← get).anchors.lookup (String.ofList name) with
  | some (some n) => return n
  | _ => throw (.unknownAlias (String.ofList name))

/-! ## 3. Nodes -/

mutual
/-- A node; blocks are read only where they may stand, and sequences without an indentation of their
own only as keys or values of a block. -/
def node (fuel : Nat) (block indentless : Bool) : Reading Node := do
  match fuel with
  | 0 => throw .order
  | fuel + 1 =>
    match ← peek with
    | some (.alias name) =>
      take
      aliased name
    | _ =>
      let p ← properties
      let tag := if p.tag = some "!" then none else p.tag
      named p.anchor do
        match ← peek with
        | some (.scalar text isPlain) =>
          take
          return .scalar tag (isPlain || p.tag = some "!") text
        | some .flowSequenceStart =>
          take
          return .sequence tag (← flowItems fuel true)
        | some .flowMappingStart =>
          take
          return .mapping tag (← flowEntries fuel true)
        | some .blockEntry =>
          if indentless then return .sequence tag (← indentlessItems fuel)
          else if p.anchor.isSome || p.tag.isSome then return .scalar tag true []
          else throw .order
        | t =>
          if block && t = some .blockSequenceStart then
            take
            return .sequence tag (← blockItems fuel)
          else if block && t = some .blockMappingStart then
            take
            return .mapping tag (← blockEntries fuel)
          else if p.anchor.isSome || p.tag.isSome then return .scalar tag true []
          else throw .order

def blockNode (fuel : Nat) (indentless : Bool) (ends : List Token) : Reading Node := do
  match fuel with
  | 0 => throw .order
  | fuel + 1 => if ← isNext ends then return .absent else node fuel true indentless

def flowNode (fuel : Nat) (ends : List Token) : Reading Node := do
  match fuel with
  | 0 => throw .order
  | fuel + 1 => if ← isNext ends then return .absent else node fuel false false

def blockItems (fuel : Nat) : Reading (List Node) := do
  match fuel with
  | 0 => throw .order
  | fuel + 1 =>
    if ← takeIf .blockEntry then
      let n ← blockNode fuel false [.blockEntry, .blockEnd]
      return n :: (← blockItems fuel)
    else
      need .blockEnd
      return []

def indentlessItems (fuel : Nat) : Reading (List Node) := do
  match fuel with
  | 0 => throw .order
  | fuel + 1 =>
    if ← takeIf .blockEntry then
      let n ← blockNode fuel false [.blockEntry, .key, .value, .blockEnd]
      return n :: (← indentlessItems fuel)
    else return []

def blockEntries (fuel : Nat) : Reading (List (Node × Node)) := do
  match fuel with
  | 0 => throw .order
  | fuel + 1 =>
    let ends : List Token := [.key, .value, .blockEnd]
    if ← takeIf .key then
      let k ← blockNode fuel true ends
      let v ← behind .value (blockNode fuel true ends)
      return (k, v) :: (← blockEntries fuel)
    else
      need .blockEnd
      return []

def flowItems (fuel : Nat) (isFirst : Bool) : Reading (List Node) := do
  match fuel with
  | 0 => throw .order
  | fuel + 1 =>
    if ← takeIf .flowSequenceEnd then return []
    separated isFirst
    let ends : List Token := [.flowEntry, .flowSequenceEnd]
    if ← takeIf .key then
      let k ← flowNode fuel (.value :: ends)
      let v ← behind .value (flowNode fuel ends)
      return .mapping none [(k, v)] :: (← flowItems fuel false)
    else if ← takeIf .flowSequenceEnd then return []
    else
      let n ← node fuel false false
      return n :: (← flowItems fuel false)

def flowEntries (fuel : Nat) (isFirst : Bool) : Reading (List (Node × Node)) := do
  match fuel with
  | 0 => throw .order
  | fuel + 1 =>
    if ← takeIf .flowMappingEnd then return []
    separated isFirst
    let ends : List Token := [.flowEntry, .flowMappingEnd]
    if ← takeIf .key then
      let k ← flowNode fuel (.value :: ends)
      let v ← behind .value (flowNode fuel ends)
      return (k, v) :: (← flowEntries fuel false)
    else if ← takeIf .flowMappingEnd then return []
    else
      let k ← node fuel false false
      return (k, .absent) :: (← flowEntries fuel false)
end

/-! ## 4. Documents -/

def directives (fuel : Nat) (versioned : Bool) (handles : List (List Char × String)) : Reading Unit := do
  match fuel with
  | 0 => throw .order
  | fuel + 1 =>
    match ← peek with
    | some (.version major) =>
      take
      if versioned || major ≠ 1 then throw .directive else directives fuel true handles
    | some (.shortTag handle expansion) =>
      take
      if (handles.lookup handle).isSome then throw .directive
      else directives fuel versioned (handles ++ [(handle, String.ofList expansion)])
    | some .otherDirective =>
      take
      directives fuel versioned handles
    | _ => modify fun s => { s with handles := handles ++ commonHandles }

def atDirective : Reading Bool := do
  match ← peek with
  | some (.version _) => return true
  | some (.shortTag _ _) => return true
  | some .otherDirective => return true
  | _ => return false

def skipEnds (ts : List Token) : List Token := ts.dropWhile (· = .documentEnd)

def markedRoot (fuel : Nat) : Reading Node := do
  directives fuel false []
  need .documentStart
  if (← peek).isNone || (← atDirective) || (← isNext [.documentStart, .documentEnd]) then
    return .absent
  else node fuel true false

def plainRoot (fuel : Nat) : Reading Node := do
  modify fun s => { s with handles := commonHandles }
  node fuel true false

def document : Reading (Option Node) := do
  let fuel := 6 * (← get).tokens.length + 12
  let marked := (← atDirective) || (← isNext [.documentStart])
  if (← peek).isNone then return none
  let n ← if marked then markedRoot fuel else plainRoot fuel
  modify fun s => { s with tokens := skipEnds s.tokens }
  if (← peek).isSome then throw .secondDocument else return some n

end Reading

def Node.read (text : List Char) : Except Defect (Option Node) := do
  let cut := Cut.ofText text
  return (← (Reading.document.run cut.defect).run { tokens := cut.tokens }).1

end Grading.Yaml
