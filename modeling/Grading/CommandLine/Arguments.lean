/-!
# Arguments — options and words on a command line

An option is a letter after one dash or a name after two. It is a switch or takes a value, which may
follow as the next argument, after an equals sign, or right after the letter. After two dashes alone
there are only words.
-/

namespace Grading.CommandLine

/-- The options that a command knows: their spellings, with what each stands for. -/
structure Options where
  switches : List (String × String) := []
  values : List (String × String) := []
  deriving DecidableEq, Repr, Inhabited

structure Arguments where
  options : List (String × String) := []
  words : List String := []
  deriving DecidableEq, Repr, Inhabited

namespace Arguments

def add (a : Arguments) (option value : String) : Arguments :=
  { a with options := (option, value) :: a.options }

def addAll (a : Arguments) (switches : List String) : Arguments :=
  { a with options := switches.map (·, "") ++ a.options }

def has (a : Arguments) (option : String) : Bool := a.options.any (·.1 = option)

def value? (a : Arguments) (option : String) : Option String :=
  (a.options.filter (·.1 = option)).getLast?.map (·.2)

def values (a : Arguments) (option : String) : List String :=
  (a.options.filter (·.1 = option)).map (·.2)

end Arguments

inductive Reading where
  | complete (switches : List String) (value : Option (String × String))
  /-- The value of the option is the next argument. -/
  | needsValue (switches : List String) (option : String)
  deriving DecidableEq, Repr, Inhabited

def readLetters (o : Options) (switches : List String) : List Char → Option Reading
  | [] => some (.complete switches none)
  | c :: rest =>
    let spelling := String.ofList ['-', c]
    match o.switches.lookup spelling, o.values.lookup spelling with
    | some name, _ => readLetters o (switches ++ [name]) rest
    | none, some name =>
      some (if rest.isEmpty then .needsValue switches name
        else .complete switches (some (name, String.ofList rest)))
    | none, none => none

def readOption (o : Options) (arg : String) : Option Reading :=
  let cs := arg.toList
  if cs.take 2 = ['-', '-'] then
    let name := String.ofList (cs.takeWhile (· ≠ '='))
    let given := (cs.dropWhile (· ≠ '=')).tail
    let hasValue := cs.contains '='
    match o.switches.lookup name, o.values.lookup name with
    | some name, _ => if hasValue then none else some (.complete [name] none)
    | none, some name =>
      some (if hasValue then .complete [] (some (name, String.ofList given)) else .needsValue [] name)
    | none, none => none
  else readLetters o [] cs.tail

def readArguments (o : Options) : List String → Option Arguments
  | [] => some {}
  | arg :: rest =>
    if arg = "--" then some { words := rest }
    else if !arg.startsWith "-" || arg = "-" then
      (readArguments o rest).map fun a => { a with words := arg :: a.words }
    else
      match readOption o arg with
      | none => none
      | some (.complete switches value) =>
        (readArguments o rest).map fun a =>
          (match value with
            | none => a
            | some (name, v) => a.add name v).addAll switches
      | some (.needsValue switches name) =>
        match rest with
        | [] => none
        | v :: rest => (readArguments o rest).map fun a => (a.add name v).addAll switches

end Grading.CommandLine
